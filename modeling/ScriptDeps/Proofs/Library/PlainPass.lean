import ScriptDeps.Library.Candidates
import ScriptDeps.Proofs.Distinct
import ScriptDeps.Proofs.Library.Again
import ScriptDeps.Proofs.Library.Lookup

/-!
# One plain pass

Candidates are gathered with an index that remembers what it has listed, each path once, and then
one of them is kept for each library. The same comes of a plain pass: every name is looked up on its
own, what is found is put together as it is, and one path is kept for each library.
-/

namespace ScriptDeps

namespace Library.Deduplicator

variable {host : Host} {paths : List String}

/-- Every name that the worker may report is the same as itself. Of numbers with a point nothing
is known here. -/
def TellsItself (host : Host) : Prop :=
  ∀ paths reports, Delivers host paths reports →
    ∀ path ∈ paths, ∀ name ∈ reportedName? reports path, name.sameAtom name = true

theorem tellsItself_of_own (own : ∀ output, host.worker ≠ .writes output) : TellsItself host := by
  intro paths reports delivers path member name reported
  by_cases answering : host.worker = .answers
  · obtain ⟨others, delivered, names⟩ := delivers_of_answers answering (delivers.spoken answering)
    obtain rfl := delivers.unique delivered
    rw [names path member] at reported
    obtain ⟨declared, _, rfl⟩ := Option.map_eq_some_iff.mp reported
    rw [sameAtom_ofString, beq_self_eq_true]
  · exact absurd delivers ((unheard_of_own own fun both => answering both.1).not_delivers reports)

theorem unheard_of_distinct (unheard : Unheard host (distinct paths)) : Unheard host paths := by
  by_cases answering : host.worker = .answers
  · have died : ∃ path ∈ distinct paths, '\x00' ∈ path.toList := by
      by_contra spoken
      push Not at spoken
      obtain ⟨reports, delivers, -⟩ := delivers_of_answers answering spoken
      exact unheard.not_delivers reports delivers
    obtain ⟨path, member, silent⟩ := died
    exact unheard_of_null answering (mem_distinct.mp member) silent
  · exact unheard.fewer answering paths

theorem firstByFileName_distinct (paths : List String) :
    firstByFileName (distinct paths) = firstByFileName paths :=
  keepFirst_distinct fun _ _ _ _ => beq_self_eq_true _

/-- A deduplicator keeps the same paths, and reports the same strategy, if paths are handed to it
several times. -/
theorem dedupe_distinct (told : TellsItself host) {d : Deduplicator} {deduped : Deduped}
    (done : d.dedupe (itemsOf (distinct paths)) host = .ok deduped) :
    d.dedupe (itemsOf paths) host = .ok deduped := by
  cases d with
  | byFileName =>
    rw [dedupe_byFileName, firstByFileName_distinct] at done
    rw [dedupe_byFileName]
    exact done
  | byDeclaredName timeout =>
    by_cases asked : paths = []
    · subst asked
      exact done
    have askedOnce : distinct paths ≠ [] := by
      obtain ⟨path, member⟩ := List.exists_mem_of_ne_nil paths asked
      exact List.ne_nil_of_mem (mem_distinct.mpr member)
    obtain ⟨reports, delivers⟩ | garbles | unheard :=
      delivers_or_garbles_or_unheard host (distinct paths)
    · rw [dedupe_byDeclaredName (recordByWorker_delivers askedOnce delivers timeout .load)] at done
      obtain ⟨others, delivered, names⟩ := delivers.fewer fun path (member : path ∈ paths) =>
        mem_distinct.mpr member
      rw [dedupe_byDeclaredName (recordByWorker_delivers asked delivered timeout .load), ← done,
        ← keepFirst_distinct (told paths others delivered)]
      rw [keepFirst_congr fun path member => names path (mem_distinct.mp member)]
    · obtain ⟨failure, ran⟩ := recordByWorker_garbles askedOnce garbles timeout .load
      rw [dedupe_byDeclaredName ran] at done
      cases done
    · rw [dedupe_byDeclaredName (recordByWorker_unheard askedOnce unheard timeout .load),
        firstByFileName_distinct] at done
      rw [dedupe_byDeclaredName
        (recordByWorker_unheard asked (unheard_of_distinct unheard) timeout .load)]
      exact done

end Library.Deduplicator

/-! ### Looking up with and without memory -/

namespace LibraryIndex

def SameIgnored (index later : LibraryIndex) : Prop :=
  later.ignored = index.ignored

instance : IsPreorder LibraryIndex SameIgnored where
  refl _ := rfl
  trans _ _ _ first next := Eq.trans next first

variable {index : LibraryIndex} {fs : FileSystem} {dirs : List String}

theorem listing_sameIgnored (directory : String) : Moves SameIgnored (listing fs directory) := by
  intro index
  rw [listing]
  split
  · rfl
  · split <;> rfl

theorem findBase_sameIgnored (name : String) : Moves SameIgnored (findBase fs name dirs) :=
  (moves_mapM fun directory _ => (listing_sameIgnored directory).bind fun _ => moves_pure _).bind
    fun _ => moves_pure _

theorem findFirst_sameIgnored (names : List String) :
    Moves SameIgnored (findFirst fs dirs names) := by
  induction names with
  | nil => exact moves_pure _
  | cons name rest ih =>
    refine (findBase_sameIgnored name).bind fun found => ?_
    split
    · exact ih
    · exact moves_pure _

theorem find_sameIgnored (name : String) : Moves SameIgnored (find fs name dirs) := by
  have named : ∀ (slashed : Bool) names, Moves SameIgnored
      (if slashed then return [] else findFirst fs dirs names : Lookup (List String)) := by
    intro slashed names
    split
    · exact moves_pure _
    · exact findFirst_sameIgnored names
  unfold find
  generalize stripQuotes name = key
  dsimp only
  split
  · exact moves_pure _
  · refine Moves.bind (moves_of_same fun _ => rfl) fun index => ?_
    refine Moves.bind (moves_of_same fun _ => rfl) fun file => ?_
    split
    · exact moves_pure _
    · exact named _ _

/-- What is found for a name from here on. -/
def lookUp (index : LibraryIndex) (fs : FileSystem) (name : String) (dirs : List String) :
    Except Failure (List String) :=
  (find fs name dirs index).1

/-- The index has become another one by listing directories. -/
structure Lists (index : LibraryIndex) (fs : FileSystem) (later : LibraryIndex) : Prop where
  remembers : Remembers index fs later
  ignored : SameIgnored index later

/-- Whatever has been listed, a name gives what it gives when nothing has. -/
theorem find_yields (start : Remembers index fs index) (name : String) (dirs : List String) :
    Yields (Lists index fs) (find fs name dirs) (index.lookUp fs name dirs) := by
  intro before lists
  have ignored := @find_sameIgnored fs dirs name before
  by_cases empty : stripQuotes name = ""
  · rw [lookUp, find_of_empty empty]
    exact ⟨before, rfl, lists⟩
  · obtain ⟨later, ran, remembers⟩ := @find_computes index fs dirs name empty before lists.remembers
    obtain ⟨_, alone, _⟩ := @find_computes index fs dirs name empty index start
    rw [ran] at ignored
    rw [lookUp, alone]
    exact ⟨later, ran, remembers, trans_of SameIgnored lists.ignored ignored⟩

end LibraryIndex

/-! ### Gathering -/

namespace Library

open LibraryIndex (stripQuotes)

variable {index : LibraryIndex} {host : Host} {wanted : Wanted}

/-- The host is as it was, and the index has only listed directories. -/
def OnlyLists (index : LibraryIndex) (host : Host) (state : Host × LibraryIndex) : Prop :=
  state.1 = host ∧ index.Lists host.files state.2

theorem onIndex_yields {α : Type} (lookup : FileSystem → LibraryIndex.Lookup α)
    {result : Except Failure α}
    (yields : Yields (index.Lists host.files) (lookup host.files) result) :
    Yields (OnlyLists index host) (Gathering.onIndex lookup) result := by
  rintro ⟨now, before⟩ ⟨same, lists⟩
  obtain rfl : now = host := same
  obtain ⟨later, ran, kept⟩ := yields before lists
  refine ⟨(now, later), ?_, rfl, kept⟩
  simp only [Gathering.onIndex, ran]

theorem onHost_yields {α : Type} {action : Action α} (quiet : (action host).2 = host) :
    Yields (OnlyLists index host) (Gathering.onHost action) (action host).1 := by
  rintro ⟨now, before⟩ ⟨same, lists⟩
  obtain rfl : now = host := same
  refine ⟨(now, before), ?_, rfl, lists⟩
  exact Prod.ext rfl (Prod.ext quiet rfl)

/-- The candidates for a namespace that is looked up on its own. -/
def namespaceAlone (index : LibraryIndex) (host : Host) (wanted : Wanted) (name : String) :
    Except Failure (List Candidate) :=
  if index.isIgnored name wanted.ignored then return []
  else return candidatesAt .usedNamespace name (← index.lookUp host.files name wanted.searchDirs)

def referenceAlone (index : LibraryIndex) (host : Host) (wanted : Wanted) (reference : String) :
    Except Failure (List Candidate) := do
  let key := stripQuotes reference
  return candidatesAt .reference key (← index.lookUp host.files key wanted.searchDirs)

theorem find_onIndex_yields (start : index.Remembers host.files index) (name : String) :
    Yields (OnlyLists index host) (Gathering.onIndex (LibraryIndex.find · name wanted.searchDirs))
      (index.lookUp host.files name wanted.searchDirs) :=
  onIndex_yields (LibraryIndex.find · name wanted.searchDirs)
    (LibraryIndex.find_yields start name wanted.searchDirs)

theorem ofNamespace_yields (start : index.Remembers host.files index) (name : String) :
    Yields (OnlyLists index host) (ofNamespace wanted name)
      (namespaceAlone index host wanted name) := by
  intro (now, before) holds
  have same : before.isIgnored name wanted.ignored = index.isIgnored name wanted.ignored := by
    rw [LibraryIndex.isIgnored, holds.2.ignored, LibraryIndex.isIgnored]
  rw [ofNamespace, namespaceAlone, run_bind, run_get]
  dsimp only
  rw [same]
  split
  · exact yields_pure _ _ holds
  · exact (find_onIndex_yields start name).bind (fun _ => yields_pure _) _ holds

theorem ofReference_yields (start : index.Remembers host.files index) (reference : String) :
    Yields (OnlyLists index host) (ofReference wanted reference)
      (referenceAlone index host wanted reference) :=
  (find_onIndex_yields start (stripQuotes reference)).bind fun _ => yields_pure _

/-- The candidates from a source whose names are looked up on their own. -/
def sourceAlone (packages : Bool → Action (List String)) (index : LibraryIndex) (host : Host)
    (wanted : Wanted) : Source → Except Failure (List Candidate)
  | .usedNamespace =>
    return (← wanted.namespaces.mapM (namespaceAlone index host wanted)).flatten
  | .reference => return (← wanted.references.mapM (referenceAlone index host wanted)).flatten
  | .package => return candidatesAt .package "" (← (packages suppressDownloads host).1)

theorem gather_yields {packages : Bool → Action (List String)}
    (quiet : (packages suppressDownloads host).2 = host)
    (start : index.Remembers host.files index) (sources : List Source) :
    Yields (OnlyLists index host) (gather packages wanted sources) (do
      return distinctBy (·.path)
        (← sources.mapM (sourceAlone packages index host wanted)).flatten) := by
  refine (yields_mapM (fun source => ?_) sources).bind fun _ => yields_pure _
  cases source with
  | usedNamespace =>
    exact (yields_mapM (ofNamespace_yields start) _).bind fun _ => yields_pure _
  | reference => exact (yields_mapM (ofReference_yields start) _).bind fun _ => yields_pure _
  | package => exact (onHost_yields quiet).bind fun _ => yields_pure _

/-! ### Where candidates come from -/

theorem source_candidatesAt {source : Source} {key : String} {paths : List String}
    {candidate : Candidate} (member : candidate ∈ candidatesAt source key paths) :
    candidate.source = source := by
  obtain ⟨path, _, rfl⟩ := List.mem_map.mp member
  rfl

theorem ofNamespace_source {wanted : Wanted} {name : String} {found : List Candidate}
    {state next : Host × LibraryIndex} (ran : ofNamespace wanted name state = (.ok found, next)) :
    ∀ candidate ∈ found, candidate.source = .usedNamespace := by
  intro candidate member
  obtain ⟨⟨_, index⟩, _, ⟨⟩, ran⟩ := run_ok ran
  dsimp only at ran
  split at ran
  · obtain ⟨made, -⟩ := Prod.mk.inj ran
    rw [← Except.ok.inj made] at member
    cases member
  · obtain ⟨paths, _, _, ran⟩ := run_ok ran
    obtain ⟨made, -⟩ := Prod.mk.inj ran
    exact source_candidatesAt (Except.ok.inj made ▸ member)

theorem ofReference_source {wanted : Wanted} {reference : String} {found : List Candidate}
    {state next : Host × LibraryIndex}
    (ran : ofReference wanted reference state = (.ok found, next)) :
    ∀ candidate ∈ found, candidate.source = .reference := by
  intro candidate member
  obtain ⟨paths, _, _, ran⟩ := run_ok ran
  obtain ⟨made, -⟩ := Prod.mk.inj ran
  exact source_candidatesAt (Except.ok.inj made ▸ member)

/-- The candidates of a source tell that they come from it. -/
theorem ofSource_source {packages : Bool → Action (List String)} {wanted : Wanted}
    {source : Source} {found : List Candidate} {state next : Host × LibraryIndex}
    (ran : ofSource packages wanted source state = (.ok found, next)) :
    ∀ candidate ∈ found, candidate.source = source := by
  intro candidate member
  cases source with
  | usedNamespace =>
    obtain ⟨lists, _, each, ran⟩ := run_ok ran
    obtain ⟨made, -⟩ := Prod.mk.inj ran
    rw [← Except.ok.inj made] at member
    obtain ⟨one, among, here⟩ := List.mem_flatten.mp member
    exact run_mapM_all (fun _ _ _ _ _ => ofNamespace_source) each one among candidate here
  | reference =>
    obtain ⟨lists, _, each, ran⟩ := run_ok ran
    obtain ⟨made, -⟩ := Prod.mk.inj ran
    rw [← Except.ok.inj made] at member
    obtain ⟨one, among, here⟩ := List.mem_flatten.mp member
    exact run_mapM_all (fun _ _ _ _ _ => ofReference_source) each one among candidate here
  | package =>
    obtain ⟨paths, _, _, ran⟩ := run_ok ran
    obtain ⟨made, -⟩ := Prod.mk.inj ran
    exact source_candidatesAt (Except.ok.inj made ▸ member)

theorem ofSources_source {packages : Bool → Action (List String)} {wanted : Wanted}
    {sources : List Source} {lists : List (List Candidate)} {state next : Host × LibraryIndex}
    (ran : sources.mapM (ofSource packages wanted) state = (.ok lists, next)) :
    ∀ candidate ∈ lists.flatten, candidate.source ∈ sources := by
  have each : ∀ list ∈ lists, ∀ candidate ∈ list, candidate.source ∈ sources := by
    refine run_mapM_all (fun source asked list s s' ofOne candidate among => ?_) ran
    rw [ofSource_source ofOne candidate among]
    exact asked
  intro candidate member
  obtain ⟨list, among, here⟩ := List.mem_flatten.mp member
  exact each list among candidate here

/-! ### Without candidates -/

/-- What the sources name, one source after the other, each name looked up on its own, and put
together as it is. -/
def plainPass (packages : Bool → Action (List String)) (index : LibraryIndex) (host : Host)
    (wanted : Wanted) : Except Failure (List String) := do
  let lookUp name := index.lookUp host.files name wanted.searchDirs
  let used ← (wanted.namespaces.filter fun name => !index.isIgnored name wanted.ignored).mapM lookUp
  let referred ← (wanted.references.map stripQuotes).mapM lookUp
  let packaged ← (packages suppressDownloads host).1
  return used.flatten ++ referred.flatten ++ packaged

theorem paths_candidatesAt (source : Source) (key : String) (paths : List String) :
    (candidatesAt source key paths).map (·.path) = paths := by
  rw [candidatesAt, List.map_map]
  exact List.map_id paths

theorem namespacesAlone_paths {β : Type} (names : List String)
    (next : List String → Except Failure β) :
    (do
      let found ← names.mapM (namespaceAlone index host wanted)
      next (found.flatten.map (·.path))) = (do
      let found ← (names.filter fun name => !index.isIgnored name wanted.ignored).mapM
        fun name => index.lookUp host.files name wanted.searchDirs
      next found.flatten) := by
  induction names generalizing next with
  | nil => simp only [List.filter_nil, List.mapM_nil, pure_bind, List.flatten_nil, List.map_nil]
  | cons name rest ih =>
    rw [List.mapM_cons, List.filter_cons, namespaceAlone]
    cases ignored : index.isIgnored name wanted.ignored with
    | true =>
      rw [if_pos rfl, Bool.not_true, if_neg Bool.false_ne_true, ← ih next]
      simp only [pure_bind, bind_assoc, List.flatten_cons, List.nil_append]
    | false =>
      rw [if_neg Bool.false_ne_true, Bool.not_false, if_pos rfl, List.mapM_cons]
      simp only [bind_assoc, pure_bind, List.flatten_cons, List.map_append, paths_candidatesAt]
      exact bind_congr fun paths => ih fun others => next (paths ++ others)

theorem referencesAlone_paths {β : Type} (references : List String)
    (next : List String → Except Failure β) :
    (do
      let found ← references.mapM (referenceAlone index host wanted)
      next (found.flatten.map (·.path))) = (do
      let found ← (references.map stripQuotes).mapM
        fun name => index.lookUp host.files name wanted.searchDirs
      next found.flatten) := by
  induction references generalizing next with
  | nil => simp only [List.map_nil, List.mapM_nil, pure_bind, List.flatten_nil]
  | cons reference rest ih =>
    simp only [List.map_cons, List.mapM_cons, referenceAlone]
    simp only [bind_assoc, pure_bind, List.flatten_cons, List.map_append, paths_candidatesAt]
    exact bind_congr fun paths => ih fun others => next (paths ++ others)

/-- The paths of the candidates are those of the plain pass, each once. -/
theorem sourcesAlone_paths (packages : Bool → Action (List String)) (index : LibraryIndex)
    (host : Host) (wanted : Wanted) : (do
      let found ← Source.all.mapM (sourceAlone packages index host wanted)
      return (distinctBy (·.path) found.flatten).map (·.path)) =
        (do return distinct (← plainPass packages index host wanted)) := by
  simp only [Source.all, List.mapM_cons, List.mapM_nil, sourceAlone, plainPass, bind_assoc,
    pure_bind, map_distinctBy, List.flatten_cons, List.flatten_nil, List.append_nil,
    List.map_append, paths_candidatesAt, List.append_assoc]
  refine (namespacesAlone_paths wanted.namespaces fun used => do
    let referred ← wanted.references.mapM (referenceAlone index host wanted)
    let packaged ← (packages suppressDownloads host).1
    return distinct (used ++ (referred.flatten.map (·.path) ++ packaged))).trans ?_
  refine bind_congr fun used => ?_
  exact referencesAlone_paths wanted.references fun referred => do
    let packaged ← (packages suppressDownloads host).1
    return distinct (used.flatten ++ (referred ++ packaged))

end Library

end ScriptDeps
