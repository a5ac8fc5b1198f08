import ScriptDeps.Proofs.Library.PlainPass

/-!
# Ignored names

A namespace that is ignored is not looked up, but one that is not ignored is looked up by all its
dotted beginnings, and these may be ignored. So a library with an ignored name is a candidate just if
a namespace names its file, or comes down to its name.
-/

namespace ScriptDeps

/-! ### First items -/

theorem mem_first {α β : Type} {f : α → List β} {items : List α} {b : β} [DecidableEq β] :
    b ∈ ((items.map f).find? (· ≠ [])).getD [] ↔
      ∃ before item after, items = before ++ item :: after ∧ (∀ other ∈ before, f other = []) ∧
        b ∈ f item := by
  constructor
  · intro member
    rw [List.find?_map] at member
    cases found : items.find? ((fun list => decide (list ≠ [])) ∘ f) with
    | none =>
      rw [found] at member
      cases member
    | some item =>
      obtain ⟨_, before, after, split, empty⟩ := List.find?_eq_some_iff_append.mp found
      rw [found] at member
      exact ⟨before, item, after, split, by simpa using empty, member⟩
  · rintro ⟨before, item, after, rfl, empty, member⟩
    have passed : (before.map f).find? (· ≠ []) = none := by simpa using empty
    have some : f item ≠ [] := List.ne_nil_of_mem member
    rw [List.map_append, List.find?_append, passed, List.map_cons,
      List.find?_cons_of_pos (by simpa using some)]
    exact member

/-- For every item one with its key is kept that stands no later. -/
theorem exists_distinctBy {α κ : Type} [BEq κ] [LawfulBEq κ] (key : α → κ) {items : List α} {item : α}
    (member : item ∈ items) (others : List α) :
    ∃ kept ∈ distinctBy key (items ++ others), kept ∈ items ∧ key kept = key item := by
  have keeps := keepsFirst_keepFirst (· == ·) (some ∘ key) (items ++ others)
  by_cases kept : item ∈ distinctBy key (items ++ others)
  · exact ⟨item, kept, member, rfl⟩
  obtain ⟨before, after, split⟩ := List.append_of_mem member
  have whole : items ++ others = before ++ item :: (after ++ others) := by
    rw [split, List.append_assoc, List.cons_append]
  obtain none | ⟨earlier, here, keptEarlier, k, its, l, theirs, equal⟩ :=
    keeps.covered before item _ whole kept
  · cases none
  have same : key item = key earlier := by
    rw [Option.some.inj its, Option.some.inj theirs]
    exact eq_of_beq equal
  exact ⟨earlier, keptEarlier, split ▸ List.mem_append_left _ here, same.symm⟩

/-! ### Names that are come to -/

namespace LibraryIndex

variable {index : LibraryIndex} {fs : FileSystem} {dirs : List String} {name path : String}

/-- A lookup of a name comes to the listings for one of its beginnings. -/
structure ComesTo (index : LibraryIndex) (fs : FileSystem) (dirs : List String)
    (name beginning : String) : Prop where
  unnamed : index.namedFile? fs (stripQuotes name) dirs = none
  plain : '/' ∉ (stripQuotes name).toList
  /-- No directory has a library for a longer beginning. -/
  first : ∃ longer shorter, index.namesFor (stripQuotes name) = longer ++ beginning :: shorter ∧
    ∀ other ∈ longer, ∀ directory ∈ dirs, index.librariesIn fs other directory = []

theorem mem_answer : path ∈ index.answer fs (stripQuotes name) dirs ↔
    (∃ file, index.namedFile? fs (stripQuotes name) dirs = some file ∧ path = file.text) ∨
      ∃ beginning, index.ComesTo fs dirs name beginning ∧
        ∃ directory ∈ dirs, path ∈ index.librariesIn fs beginning directory := by
  unfold answer
  cases named : index.namedFile? fs (stripQuotes name) dirs with
  | some file =>
    have never : ∀ beginning, ¬index.ComesTo fs dirs name beginning := by
      intro beginning comes
      cases named.symm.trans comes.unnamed
    simp [never]
  | none =>
    by_cases separated : '/' ∈ (stripQuotes name).toList
    · have never : ∀ beginning, ¬index.ComesTo fs dirs name beginning := by
        intro beginning comes
        exact comes.plain separated
      simp [separated, never]
    · simp only [if_neg separated, mem_first, List.flatMap_eq_nil_iff, List.mem_flatMap,
        reduceCtorEq, false_and, exists_false, false_or]
      constructor
      · rintro ⟨longer, beginning, shorter, split, empty, found⟩
        exact ⟨beginning, ⟨named, separated, longer, shorter, split, empty⟩, found⟩
      · rintro ⟨beginning, ⟨_, _, longer, shorter, split, empty⟩, found⟩
        exact ⟨longer, beginning, shorter, split, empty, found⟩

theorem lookUp_answers (start : Remembers index fs index) {found : List String}
    (returned : index.lookUp fs name dirs = .ok found) :
    found = if stripQuotes name = "" then [] else index.answer fs (stripQuotes name) dirs := by
  by_cases empty : stripQuotes name = ""
  · rw [lookUp, find_of_empty empty] at returned
    rw [if_pos empty]
    exact (Except.ok.inj returned).symm
  · obtain ⟨later, ran, _⟩ := @find_computes index fs dirs name empty index start
    rw [lookUp, ran] at returned
    rw [if_neg empty]
    exact findNow_ok returned

end LibraryIndex

/-! ### Candidates with ignored names -/

namespace Library

open LibraryIndex (stripQuotes)

variable {packages : Bool → Action (List String)} {index : LibraryIndex} {host : Host}
  {wanted : Wanted}

/-- Whether the file name of a path, without its suffix, is an ignored name. -/
def HasIgnoredStem (index : LibraryIndex) (wanted : Wanted) (path : String) : Prop :=
  index.isIgnored (Path.ofText path).stem wanted.ignored = true

instance {path : String} : Decidable (HasIgnoredStem index wanted path) :=
  inferInstanceAs (Decidable (_ = _))

/-- A library with an ignored name is found for a namespace: the namespace names its file, or comes
down to a beginning that a search directory has the library for. -/
structure FindsIgnored (index : LibraryIndex) (fs : FileSystem) (wanted : Wanted) (name : String) :
    Prop where
  nonempty : stripQuotes name ≠ ""
  found : (∃ file, index.namedFile? fs (stripQuotes name) wanted.searchDirs = some file ∧
      HasIgnoredStem index wanted file.text) ∨
    ∃ beginning, index.ComesTo fs wanted.searchDirs name beginning ∧
      ∃ directory ∈ wanted.searchDirs, ∃ path ∈ index.librariesIn fs beginning directory,
        HasIgnoredStem index wanted path

theorem findsIgnored_iff (start : index.Remembers host.files index) {name : String}
    {found : List String}
    (returned : index.lookUp host.files name wanted.searchDirs = .ok found) :
    FindsIgnored index host.files wanted name ↔ ∃ path ∈ found, HasIgnoredStem index wanted path := by
  rw [LibraryIndex.lookUp_answers start returned]
  constructor
  · rintro ⟨nonempty, ⟨file, named, stem⟩ | ⟨beginning, comes, directory, among, path, here, stem⟩⟩
    · rw [if_neg nonempty]
      exact ⟨file.text, LibraryIndex.mem_answer.mpr (.inl ⟨file, named, rfl⟩), stem⟩
    · rw [if_neg nonempty]
      exact ⟨path, LibraryIndex.mem_answer.mpr (.inr ⟨beginning, comes, directory, among, here⟩), stem⟩
  · rintro ⟨path, member, stem⟩
    split at member
    · cases member
    · rename_i nonempty
      refine ⟨nonempty, ?_⟩
      obtain ⟨file, named, rfl⟩ | ⟨beginning, comes, directory, among, here⟩ :=
        LibraryIndex.mem_answer.mp member
      · exact .inl ⟨file, named, stem⟩
      · exact .inr ⟨beginning, comes, directory, among, path, here, stem⟩

theorem namespacesAlone_ignored (start : index.Remembers host.files index) {names : List String}
    {lists : List (List Candidate)}
    (ran : names.mapM (namespaceAlone index host wanted) = .ok lists) :
    (∃ candidate ∈ lists.flatten, HasIgnoredStem index wanted candidate.path) ↔
      ∃ name ∈ names, index.isIgnored name wanted.ignored = false ∧
        FindsIgnored index host.files wanted name := by
  constructor
  · rintro ⟨candidate, member, stem⟩
    obtain ⟨list, among, here⟩ := List.mem_flatten.mp member
    obtain ⟨name, asked, alone⟩ := of_mem_mapM ran among
    unfold namespaceAlone at alone
    split at alone
    · rw [pure_ok alone] at here
      cases here
    · rename_i wantedName
      obtain ⟨paths, looked, alone⟩ := bind_ok alone
      rw [pure_ok alone] at here
      obtain ⟨path, found, rfl⟩ := List.mem_map.mp here
      exact ⟨name, asked, by simpa using wantedName, (findsIgnored_iff start looked).mpr ⟨path, found, stem⟩⟩
  · rintro ⟨name, asked, notIgnored, finds⟩
    obtain ⟨list, alone⟩ := mapM_returns_iff.mp ⟨lists, ran⟩ name asked
    have among : list ∈ lists := (mem_mapM ran).mpr ⟨name, asked, alone⟩
    rw [namespaceAlone, notIgnored, if_neg Bool.false_ne_true] at alone
    obtain ⟨paths, looked, alone⟩ := bind_ok alone
    obtain ⟨path, found, stem⟩ := (findsIgnored_iff start looked).mp finds
    refine ⟨⟨path, .usedNamespace, name⟩, List.mem_flatten.mpr ⟨list, among, ?_⟩, stem⟩
    rw [pure_ok alone]
    exact List.mem_map_of_mem found

/-- Where namespaces are asked before anything else, each path of theirs is kept for one of them. -/
theorem gather_namespaces (start : index.Remembers host.files index) {others : List Source}
    (once : .usedNamespace ∉ others) {candidates : List Candidate} {later : Host × LibraryIndex}
    (gathered : gather packages wanted (.usedNamespace :: others) (host, index) =
      (.ok candidates, later)) :
    ∃ lists, wanted.namespaces.mapM (namespaceAlone index host wanted) = .ok lists ∧
      ∀ path, (∃ candidate ∈ candidates, candidate.source = .usedNamespace ∧ candidate.path = path) ↔
        ∃ candidate ∈ lists.flatten, candidate.path = path := by
  obtain ⟨all, _, ran, made⟩ := run_ok gathered
  rw [List.mapM_cons] at ran
  obtain ⟨first, _, ofNames, ran⟩ := run_ok ran
  obtain ⟨rest, _, ofOthers, joined⟩ := run_ok ran
  obtain rfl : first :: rest = all := Except.ok.inj (Prod.mk.inj joined).1
  obtain rfl : distinctBy (·.path) (first :: rest).flatten = candidates :=
    Except.ok.inj (Prod.mk.inj made).1
  have named : ∀ candidate ∈ first, candidate.source = .usedNamespace := ofSource_source ofNames
  have unnamed : ∀ candidate ∈ rest.flatten, candidate.source ≠ .usedNamespace := by
    intro candidate member same
    exact once (same ▸ ofSources_source ofOthers candidate member)
  obtain ⟨lists, _, each, flat⟩ := run_ok ofNames
  obtain rfl : lists.flatten = first := Except.ok.inj (Prod.mk.inj flat).1
  refine ⟨lists, ?_, fun path => ⟨?_, ?_⟩⟩
  · obtain ⟨_, alone, _⟩ :=
      yields_mapM (ofNamespace_yields start) wanted.namespaces (host, index) ⟨rfl, start, rfl⟩
    exact (Prod.mk.inj (alone.symm.trans each)).1
  · rintro ⟨candidate, kept, source, same⟩
    have member := (keepFirst_sublist _ _ _ _).subset kept
    rw [List.flatten_cons, List.mem_append] at member
    exact ⟨candidate, member.resolve_right fun other => unnamed candidate other source, same⟩
  · rintro ⟨candidate, member, same⟩
    obtain ⟨earlier, kept, among, equal⟩ :=
      exists_distinctBy (fun candidate : Candidate => candidate.path) member rest.flatten
    exact ⟨earlier, kept, named earlier among, equal.trans same⟩

/-- A candidate of a namespace has an ignored name just if a namespace that is not ignored itself
names the file of a library with an ignored name, or comes down to one. -/
theorem ignored_candidate_iff (start : index.Remembers host.files index) {others : List Source}
    (once : .usedNamespace ∉ others) {candidates : List Candidate} {later : Host × LibraryIndex}
    (gathered : gather packages wanted (.usedNamespace :: others) (host, index) =
      (.ok candidates, later)) :
    (∃ candidate ∈ candidates, candidate.source = .usedNamespace ∧
        HasIgnoredStem index wanted candidate.path) ↔
      ∃ name ∈ wanted.namespaces, index.isIgnored name wanted.ignored = false ∧
        FindsIgnored index host.files wanted name := by
  obtain ⟨lists, alone, paths⟩ := gather_namespaces start once gathered
  rw [← namespacesAlone_ignored start alone]
  constructor
  · rintro ⟨candidate, member, source, stem⟩
    obtain ⟨other, found, same⟩ := (paths candidate.path).mp ⟨candidate, member, source, rfl⟩
    exact ⟨other, found, same ▸ stem⟩
  · rintro ⟨candidate, found, stem⟩
    obtain ⟨other, member, source, same⟩ := (paths candidate.path).mpr ⟨candidate, found, rfl⟩
    exact ⟨other, member, source, same ▸ stem⟩

def systemHost : Host where
  files := {
    nodes := [(["w"], .directory false), (["System.dll", "w"], .file .empty 0 false)]
    workingDirectory := [] }
  environment := []
  modules := []
  worker := .missing

def systemWanted : Wanted where
  namespaces := ["System.Foo"]
  ignored := []
  references := []
  searchDirs := ["/w"]

theorem lookUp_system :
    LibraryIndex.standard.lookUp systemHost.files "System.Foo" ["/w"] = .ok ["/w/System.dll"] := by
  have listed : systemHost.files.list "/w" = .ok ["System.dll"] := by
    have names : systemHost.files.list "/w" = .ok (systemHost.files.namesIn ["w"]) := rfl
    rw [names, FileSystem.namesIn, List.mergeSort_of_pairwise (by decide +kernel)]
    rfl
  have unnamed : LibraryIndex.standard.namedFile? systemHost.files (stripQuotes "System.Foo") ["/w"] =
      none := by
    decide +kernel
  have names : LibraryIndex.standard.namesFor (stripQuotes "System.Foo") = ["System.Foo", "System"] := by
    decide +kernel
  have answered := @LibraryIndex.find_plain systemHost.files ["/w"] LibraryIndex.defaultExtensions
    LibraryIndex.defaultIgnored "System.Foo" (by decide +kernel) (by decide +kernel) (by decide)
  refine answered.trans ?_
  change Except.ok (LibraryIndex.standard.answer _ _ _) = _
  rw [LibraryIndex.answer, unnamed, names]
  simp only [List.flatMap_cons, List.flatMap_nil, LibraryIndex.librariesIn, listed]
  decide +kernel

theorem gather_system : ∃ later,
    gather (fun _ => pure []) systemWanted Source.all (systemHost, LibraryIndex.standard) =
      (.ok [⟨"/w/System.dll", .usedNamespace, "System.Foo"⟩], later) := by
  have start : LibraryIndex.standard.Remembers systemHost.files LibraryIndex.standard :=
    LibraryIndex.remembers_fresh _ _
  obtain ⟨later, ran, _⟩ := @gather_yields _ _ systemWanted (fun _ => pure []) rfl start Source.all
    (systemHost, LibraryIndex.standard) ⟨rfl, start, rfl⟩
  have notIgnored : LibraryIndex.standard.isIgnored "System.Foo" [] = false := by decide
  refine ⟨later, ran.trans ?_⟩
  simp only [Source.all, List.mapM_cons, List.mapM_nil, sourceAlone, namespaceAlone, systemWanted,
    notIgnored, lookUp_system]
  rfl

theorem ignored_candidate_system :
    LibraryIndex.standard.isIgnored "System.Foo" systemWanted.ignored = false ∧
      FindsIgnored LibraryIndex.standard systemHost.files systemWanted "System.Foo" := by
  obtain ⟨later, gathered⟩ := gather_system
  obtain ⟨name, used, notIgnored, finds⟩ :=
    (ignored_candidate_iff (LibraryIndex.remembers_fresh _ _) (by decide) gathered).mp
      ⟨_, List.mem_singleton_self _, rfl, by decide +kernel⟩
  obtain rfl : name = "System.Foo" := List.mem_singleton.mp used
  exact ⟨notIgnored, finds⟩

/-- What is ignored is found for a namespace that begins with it. -/
theorem ignored_candidate_found : ∃ candidates later,
    gather (fun _ => pure []) systemWanted Source.all (systemHost, LibraryIndex.standard) =
        (.ok candidates, later) ∧
      ∃ candidate ∈ candidates, candidate.source = .usedNamespace ∧
        HasIgnoredStem LibraryIndex.standard systemWanted candidate.path := by
  obtain ⟨later, gathered⟩ := gather_system
  exact ⟨_, later, gathered, _, List.mem_singleton_self _, rfl, by decide +kernel⟩

end Library

end ScriptDeps
