import ScriptDeps.Proofs.FileSystem.Changes
import ScriptDeps.Proofs.Script.ImportOrder
import ScriptDeps.Proofs.Script.Renaming
import ScriptDeps.Script.ImportCache

/-!
# Copies

After the imports of a script have been put in place, the copy of each renamed one holds its
generated text, whatever lay there before. Copying one import after another leaves the copies made
before alone, as long as no two copies are one file.
-/

namespace ScriptDeps

namespace Script

open FileSystem

def compiledFrom (cache : Path) (file : ScriptFile) : String :=
  match file.generated with
  | none => file.path.text
  | some _ => (copyPath cache file).text

/-- A path leads to a file at a place, which is read as a text. -/
def Holds (fs : FileSystem) (path : String) (place : Place) (text : String) : Prop :=
  ∃ node, fs.walk true path = .ok (.present place node) ∧ node.isFile = true ∧
    fs.readText path = .ok text

/-- The places that the copies of files lead to. -/
def CopiedTo (fs : FileSystem) (cache : Path) (files : List ScriptFile) (place : Place) : Prop :=
  ∃ file ∈ files, file.generated.isSome = true ∧ place ∈ fs.placeAt? (copyPath cache file).text

/-- No two renamed files have one file for their copies. -/
def CopiesApart (fs : FileSystem) (cache : Path) (files : List ScriptFile) : Prop :=
  ∀ first ∈ files, ∀ second ∈ files, first.key ≠ second.key →
    first.generated.isSome = true → second.generated.isSome = true →
    ∀ place ∈ fs.placeAt? (copyPath cache first).text,
      place ∉ fs.placeAt? (copyPath cache second).text

instance (fs : FileSystem) (cache : Path) (files : List ScriptFile) :
    Decidable (CopiesApart fs cache files) :=
  inferInstanceAs (Decidable (∀ first ∈ files, ∀ second ∈ files, first.key ≠ second.key →
    first.generated.isSome = true → second.generated.isSome = true →
    ∀ place ∈ fs.placeAt? (copyPath cache first).text,
      place ∉ fs.placeAt? (copyPath cache second).text))

/-- A copy is at least as new as what it is a copy of. -/
def UpToDate (fs : FileSystem) (copy source : Path) : Prop :=
  ∃ copied changed, fs.modifiedAt copy.text = .ok copied ∧
    fs.modifiedAt source.text = .ok changed ∧ changed ≤ copied

instance (fs : FileSystem) (copy source : Path) : Decidable (UpToDate fs copy source) :=
  match copiedAt : fs.modifiedAt copy.text, changedAt : fs.modifiedAt source.text with
  | .ok copied, .ok changed =>
    decidable_of_iff (changed ≤ copied)
      ⟨fun order => ⟨copied, changed, copiedAt, changedAt, order⟩, fun ⟨_, _, one, two, order⟩ => by
        rw [Except.ok.inj (copiedAt.symm.trans one), Except.ok.inj (changedAt.symm.trans two)]
        exact order⟩
  | .error _, _ => isFalse fun ⟨_, _, one, _⟩ => nomatch copiedAt.symm.trans one
  | _, .error _ => isFalse fun ⟨_, _, _, two, _⟩ => nomatch changedAt.symm.trans two

variable {cache : Path}

/-! ### Texts that are held -/

theorem readText_stat {fs : FileSystem} {path text : String} (h : fs.readText path = .ok text) :
    '\x00' ∉ path.toList ∧ ∃ node, fs.stat path = .ok node ∧ node.isFile = true := by
  obtain ⟨_, exact, _⟩ := bind_ok h
  obtain ⟨_, bytes, _⟩ := bind_ok exact
  obtain ⟨_, checked, h⟩ := bind_ok bytes
  obtain ⟨node, lies, h⟩ := bind_ok h
  refine ⟨checkPath_spoken checked, node, orFail_ok lies, ?_⟩
  cases node with
  | file content time denied => rfl
  | directory denied => cases h
  | link target => cases h

theorem readText_congr {fs fs' : FileSystem} {path : String} (same : fs'.stat path = fs.stat path) :
    fs'.readText path = fs.readText path := by
  rw [readText, readExact, readBytes, same]
  rfl

theorem holds_of_readText {fs : FileSystem} {path text : String}
    (h : fs.readText path = .ok text) : ∃ place, Holds fs path place text := by
  obtain ⟨_, node, lies, isFile⟩ := readText_stat h
  obtain ⟨place, walked⟩ := walk_of_stat lies
  exact ⟨place, node, walked, isFile, h⟩

theorem holds_of_lies {fs : FileSystem} {path text : String} {place : Place}
    (spoken : '\x00' ∉ path.toList) (single : '\r' ∉ text.toList) (h : fs.Lies path place text) :
    Holds fs path place text := by
  obtain ⟨time, walked⟩ := h
  exact ⟨_, walked, rfl, readText_of_stat spoken single (stat_of_walk walked)⟩

theorem Holds.copiedTo {fs : FileSystem} {file : ScriptFile} {text : String} {place : Place}
    (h : Holds fs (copyPath cache file).text place text) (made : file.generated = some text) :
    CopiedTo fs cache [file] place := by
  obtain ⟨node, walked, _⟩ := h
  exact ⟨file, List.mem_singleton_self file, by rw [made]; rfl, placeAt?_of_walk walked⟩

theorem CopiedTo.kept {fs fs' : FileSystem} {files : List ScriptFile} {place : Place}
    {written : Place → Prop} (h : CopiedTo fs cache files place) (kept : Keeps written fs fs') :
    CopiedTo fs' cache files place := by
  obtain ⟨file, member, renamed, leads⟩ := h
  exact ⟨file, member, renamed, placeAt?_kept leads kept⟩

theorem CopiedTo.mono {fs : FileSystem} {files more : List ScriptFile} {place : Place}
    (h : CopiedTo fs cache files place) (among : files ⊆ more) : CopiedTo fs cache more place := by
  obtain ⟨file, member, leads⟩ := h
  exact ⟨file, among member, leads⟩

/-- A text that is held is still held when other files have been written. -/
theorem Holds.kept {fs fs' : FileSystem} {path text : String} {place : Place}
    {written : Place → Prop} (h : Holds fs path place text) (sound : fs.WellFormed)
    (kept : Keeps written fs fs') (other : ¬ written place) : Holds fs' path place text := by
  obtain ⟨node, walked, isFile, read⟩ := h
  have lies := (walk_sound sound walked).1
  have same : fs'.node? place = some node :=
    (kept.nodes place node lies).resolve_right fun file => other file.1
  have walked' := walk_kept walked kept nofun
  rw [Found.place, nodeAt, same, Option.getD_some] at walked'
  refine ⟨node, walked', isFile, ?_⟩
  rw [readText_congr ((stat_of_walk walked').trans (stat_of_walk walked).symm), read]

/-! ### One copy -/

theorem isCurrent_true {fs : FileSystem} {copy source : Path} {text : String}
    (h : isCurrent fs copy source text = .ok true) : fs.readText copy.text = .ok text := by
  obtain ⟨present, _, h⟩ := bind_ok h
  cases present with
  | false => cases h
  | true =>
    obtain ⟨copied, _, h⟩ := bind_ok h
    obtain ⟨changed, _, h⟩ := bind_ok h
    split at h
    · cases h
    · obtain ⟨held, read, h⟩ := bind_ok h
      have same := pure_ok h
      rwa [← eq_of_beq same.symm]

theorem isCurrent_of_upToDate {fs : FileSystem} {copy source : Path} {text : String}
    (read : fs.readText copy.text = .ok text) (recent : UpToDate fs copy source) :
    isCurrent fs copy source text = .ok true := by
  obtain ⟨copied, changed, copiedAt, changedAt, order⟩ := recent
  obtain ⟨spoken, node, lies, _⟩ := readText_stat read
  have present : fs.isPresent copy.text = .ok true := by
    rw [isPresent, node?At, if_neg (by simpa using spoken), lies]
    rfl
  simp only [isCurrent, present, ok_bind, copiedAt, changedAt, read, Bool.not_true, if_false,
    Int.not_lt.mpr order, Bool.false_eq_true, beq_self_eq_true]
  rfl

theorem materialize_some {file : ScriptFile} {text : String} (made : file.generated = some text)
    (host : Host) : materialize cache file host =
      match isCurrent host.files (copyPath cache file) file.path text with
      | .error failure => (.error failure, host)
      | .ok true => (.ok (copyPath cache file).text, host)
      | .ok false =>
        match Action.ensureDirectory (copyPath cache file).parent host with
        | (.error failure, host') => (.error failure, host')
        | (.ok (), host') =>
          match host'.files.writeText (copyPath cache file).text text with
          | .error failure => (.error failure, host')
          | .ok files => (.ok (copyPath cache file).text, { host' with
              files, changes := .wroteFile (copyPath cache file).text text :: host'.changes }) := by
  rw [materialize, made]
  simp only [run_bind, Action.ofHost]
  cases isCurrent host.files (copyPath cache file) file.path text with
  | error failure => rfl
  | ok current =>
    cases current with
    | true => rfl
    | false =>
      dsimp only
      rw [Bool.not_false, if_pos rfl, run_bind]
      rcases Action.ensureDirectory (copyPath cache file).parent host with ⟨_ | _, host'⟩
      · rfl
      · dsimp only
        rw [run_bind, Action.writeText]
        cases host'.files.writeText (copyPath cache file).text text <;> rfl

/-- A copy that is not current is written, once its directory is there. -/
theorem materialize_cases {file : ScriptFile} {text saved : String} {host after : Host}
    (made : file.generated = some text) (h : materialize cache file host = (.ok saved, after)) :
    saved = (copyPath cache file).text ∧
      ((isCurrent host.files (copyPath cache file) file.path text = .ok true ∧ after = host) ∨
        ∃ ready, Action.ensureDirectory (copyPath cache file).parent host = (.ok (), ready) ∧
          ready.files.writeText (copyPath cache file).text text = .ok after.files) := by
  rw [materialize_some made] at h
  split at h
  · cases h
  · rename_i current
    obtain ⟨result, same⟩ := Prod.mk.inj h
    exact ⟨(Except.ok.inj result).symm, .inl ⟨current, same.symm⟩⟩
  · split at h
    · cases h
    · rename_i ready ensured
      split at h
      · cases h
      · rename_i files wrote
        obtain ⟨result, same⟩ := Prod.mk.inj h
        exact ⟨(Except.ok.inj result).symm, .inr ⟨ready, ensured, same ▸ wrote⟩⟩

theorem materialize_ok {file : ScriptFile} {host after : Host} {saved : String}
    (sound : host.files.WellFormed)
    (single : ∀ text, file.generated = some text → '\r' ∉ text.toList)
    (h : materialize cache file host = (.ok saved, after)) :
    saved = compiledFrom cache file ∧ after.files.WellFormed ∧
      Keeps (CopiedTo after.files cache [file]) host.files after.files ∧
      ∀ text, file.generated = some text →
        ∃ place, Holds after.files (copyPath cache file).text place text := by
  cases made : file.generated with
  | none =>
    rw [materialize, made] at h
    obtain ⟨result, same⟩ := Prod.mk.inj h
    rw [← same, compiledFrom, made]
    exact ⟨(Except.ok.inj result).symm, sound, .refl _ _, nofun⟩
  | some text =>
    obtain ⟨from_, ⟨current, rfl⟩ | ⟨ready, ensured, wrote⟩⟩ := materialize_cases made h
    · refine ⟨?_, sound, .refl _ _, fun other same => ?_⟩
      · rw [from_, compiledFrom, made]
      · rw [← Option.some.inj same]
        exact holds_of_readText (isCurrent_true current)
    · have grown := Action.ensureDirectory_grows (copyPath cache file).parent host sound
      rw [ensured] at grown
      obtain ⟨added, soundReady⟩ := grown
      obtain ⟨place, lies, kept, wellFormed⟩ := writeText_ok soundReady wrote
      have checked := writeText_spoken wrote
      have holds := holds_of_lies checked (single text made) lies
      refine ⟨?_, wellFormed, ?_, fun other same => ?_⟩
      · rw [from_, compiledFrom, made]
      · exact (added.mono nofun).trans (kept.mono fun other same => same ▸ holds.copiedTo made)
      · rw [← Option.some.inj same]
        exact ⟨place, holds⟩

/-! ### All copies -/

/-- The copies of a list's files, made one after the other. -/
theorem materializeEach_ok {files : List ScriptFile} {host after : Host} {saved : List String}
    (sound : host.files.WellFormed)
    (single : ∀ file ∈ files, ∀ text, file.generated = some text → '\r' ∉ text.toList)
    (unique : (keysOf files).Nodup)
    (h : files.mapM (materialize cache) host = (.ok saved, after))
    (apart : CopiesApart after.files cache files) :
    saved = files.map (compiledFrom cache) ∧ after.files.WellFormed ∧
      Keeps (CopiedTo after.files cache files) host.files after.files ∧
      ∀ file ∈ files, ∀ text, file.generated = some text →
        ∃ place, Holds after.files (copyPath cache file).text place text := by
  induction files generalizing host saved with
  | nil =>
    obtain ⟨result, same⟩ := Prod.mk.inj h
    rw [← same]
    exact ⟨(Except.ok.inj result).symm, sound, .refl _ _, nofun⟩
  | cons file rest ih =>
    rw [List.mapM_cons] at h
    obtain ⟨first, host₁, ran, h⟩ := run_ok h
    obtain ⟨others, host₂, ranOthers, h⟩ := run_ok h
    obtain ⟨result, same⟩ := Prod.mk.inj h
    subst same
    obtain ⟨new, unique⟩ := List.nodup_cons.mp unique
    obtain ⟨firstFrom, sound₁, kept₁, held₁⟩ :=
      materialize_ok sound (single file List.mem_cons_self) ran
    have inRest : ∀ {other}, other ∈ rest → other ∈ file :: rest := List.mem_cons_of_mem file
    obtain ⟨othersFrom, soundAfter, kept, held⟩ := ih sound₁
      (fun other member => single other (inRest member)) unique ranOthers
      fun a ma b mb => apart a (inRest ma) b (inRest mb)
    refine ⟨?_, soundAfter, ?_, ?_⟩
    · rw [← Except.ok.inj result, firstFrom, othersFrom, List.map_cons]
    · have first : Keeps (CopiedTo host₂.files cache (file :: rest)) host.files host₁.files :=
        kept₁.mono fun place copied => (copied.kept kept).mono (by simp)
      exact first.trans (kept.mono fun place copied => copied.mono (List.subset_cons_self _ _))
    · intro other member text made
      rcases List.mem_cons.mp member with rfl | member
      · obtain ⟨place, holds⟩ := held₁ text made
        refine ⟨place, holds.kept sound₁ kept ?_⟩
        -- a later copy at the same place would be one file with this one
        rintro ⟨later, among, renamed, leads⟩
        have different : other.key ≠ later.key := fun same =>
          new (same ▸ List.mem_map_of_mem among)
        obtain ⟨_, here, renamedHere, leadsHere⟩ := (holds.copiedTo made).kept kept
        obtain rfl := List.mem_singleton.mp here
        exact apart _ List.mem_cons_self later (inRest among) different renamedHere renamed place
          leadsHere leads
      · exact held other member text made

/-! ### Copying again -/

theorem materialize_again {file : ScriptFile} {host : Host}
    (held : ∀ text, file.generated = some text →
      host.files.readText (copyPath cache file).text = .ok text ∧
        UpToDate host.files (copyPath cache file) file.path) :
    materialize cache file host = (.ok (compiledFrom cache file), host) := by
  cases made : file.generated with
  | none =>
    rw [materialize, compiledFrom, made]
    rfl
  | some text =>
    obtain ⟨read, recent⟩ := held text made
    rw [materialize_some made, isCurrent_of_upToDate read recent, compiledFrom, made]

theorem materializeEach_again {files : List ScriptFile} {host : Host}
    (held : ∀ file ∈ files, ∀ text, file.generated = some text →
      host.files.readText (copyPath cache file).text = .ok text ∧
        UpToDate host.files (copyPath cache file) file.path) :
    files.mapM (materialize cache) host = (.ok (files.map (compiledFrom cache)), host) := by
  induction files with
  | nil => rfl
  | cons file rest ih =>
    have later := ih fun other member => held other (List.mem_cons_of_mem file member)
    rw [List.mapM_cons, run_bind, materialize_again (held file List.mem_cons_self)]
    dsimp only
    rw [run_bind, later]
    rfl

/-! ### The copies of a script's imports -/

theorem generated_ok {fs : FileSystem} {file : ScriptFile} (made : ReadFrom fs file) {text : String}
    (generated : file.generated = some text) :
    '\r' ∉ text.toList ∧ ∃ content, readScript fs file.path = .ok content ∧
      renameAll content file.renamings = .ok text := by
  obtain ⟨dotted, content, read, made⟩ := made
  rw [generate, generated] at made
  split at made
  · cases made
  · obtain ⟨renamed, applied, made⟩ := bind_ok made
    have same := Option.some.inj (pure_ok made)
    rw [same]
    exact ⟨notMem_renameAll dotted rfl (readScript_notMem read) applied, content, read, applied⟩

theorem materializeAll_eq (graph : ImportGraph) (host : Host) :
    materializeAll cache graph host = match graph.imports.mapM (materialize cache) host with
      | (.ok saved, after) => (.ok (distinct saved), after)
      | (.error failure, after) => (.error failure, after) := by
  rw [materializeAll, run_bind]
  rcases graph.imports.mapM (materialize cache) host with ⟨_ | _, after⟩ <;> rfl

end Script

open Script

/-- Once the imports of a script have been put in place, the copies hold the generated texts, and
doing it again while they are up to date changes nothing. The script may have been read from other
files than those that are there now, which are only taken to lie in directories. -/
theorem copies_current {packages : Option PackageStore} {extraDirs : List String} {script : String}
    {origin host after : Host} {store : PackageStore} {graph : ImportGraph} {cache : Path}
    {saved : List String}
    (opened : openScript packages extraDirs script origin = .ok (store, graph))
    (sound : host.files.WellFormed)
    (ran : materializeAll cache graph host = (.ok saved, after))
    (apart : CopiesApart after.files cache graph.imports) :
    saved = distinct (graph.imports.map (compiledFrom cache)) ∧
      (∀ file ∈ graph.imports, ∀ text, file.generated = some text →
        compiledFrom cache file ∈ saved ∧ (∃ content, readScript origin.files file.path = .ok content ∧
          renameAll content file.renamings = .ok text) ∧
        after.files.readText (compiledFrom cache file) = .ok text) ∧
      ((∀ file ∈ graph.imports, file.generated.isSome = true →
        UpToDate after.files (copyPath cache file) file.path) →
        materializeAll cache graph after = (.ok saved, after)) := by
  obtain ⟨path, _, made⟩ := openScript_ok opened
  have read := within_readFrom made
  obtain ⟨edges, traced⟩ := traced_of_within made
  have unique := (List.nodup_cons.mp (ImportGraph.files_unique traced).1).2
  rw [materializeAll_eq] at ran
  split at ran
  · rename_i each after ranEach
    obtain ⟨result, rfl⟩ := Prod.mk.inj ran
    obtain ⟨from_, _, _, held⟩ := materializeEach_ok sound
      (fun file member text generated => (generated_ok (read file member) generated).1) unique
      ranEach apart
    have texts : ∀ file ∈ graph.imports, ∀ text, file.generated = some text →
        after.files.readText (copyPath cache file).text = .ok text := by
      intro file member text generated
      obtain ⟨_, _, _, _, text⟩ := held file member text generated
      exact text
    have all : saved = distinct (graph.imports.map (compiledFrom cache)) := by
      rw [← Except.ok.inj result, from_]
    refine ⟨all, ?_, fun recent => ?_⟩
    · intro file member text generated
      have kept : compiledFrom cache file ∈ saved :=
        all ▸ mem_distinct.mpr (List.mem_map_of_mem member)
      refine ⟨kept, (generated_ok (read file member) generated).2, ?_⟩
      rw [compiledFrom, generated]
      exact texts file member text generated
    · have again := materializeEach_again fun file member text generated =>
        ⟨texts file member text generated, recent file member (by rw [generated]; rfl)⟩
      rw [materializeAll_eq, again, all]
  · cases ran

/-- A script that imports a file under two names of its namespace. -/
def renamingHost : Host where
  files := {
    nodes := [
      (["w"], .directory false),
      (["a.cs", "w"], .file
        "//css_inc b.cs,rename_namespace(B,C)\n//css_inc b.cs,rename_namespace(B,D)".toUTF8 0 false),
      (["b.cs", "w"], .file "namespace B;".toUTF8 0 false)]
    workingDirectory := [] }
  environment := [("HOME", "/")]
  modules := []
  worker := .missing

theorem copies_current_renaming : ∃ store graph saved after,
    openScript none [] "/w/a.cs" renamingHost = .ok (store, graph) ∧
      renamingHost.files.WellFormed ∧
      materializeAll (.ofText "/c") graph renamingHost = (.ok saved, after) ∧
      CopiesApart after.files (.ofText "/c") graph.imports ∧
      saved = ["/c/b.7712551e296f.cs", "/c/b.7b21639461af.cs"] ∧
      (∀ file ∈ graph.imports, ∀ text, file.generated = some text →
        after.files.readText (compiledFrom (.ofText "/c") file) = .ok text) ∧
      materializeAll (.ofText "/c") graph after = (.ok saved, after) := by
  obtain ⟨⟨store, graph⟩, opened, checked⟩ := ok_of_any (by decide +kernel :
    (openScript none [] "/w/a.cs" renamingHost).toOption.any
      (fun (made : PackageStore × ImportGraph) =>
        let run := materializeAll (.ofText "/c") made.2 renamingHost
        run.1.toOption == some ["/c/b.7712551e296f.cs", "/c/b.7b21639461af.cs"] &&
          decide (CopiesApart run.2.files (.ofText "/c") made.2.imports) &&
          decide (∀ file ∈ made.2.imports, file.generated.isSome = true →
            UpToDate run.2.files (copyPath (.ofText "/c") file) file.path)) = true)
  dsimp only at checked
  rcases ran : materializeAll (.ofText "/c") graph renamingHost with ⟨result, after⟩
  rw [ran, Bool.and_eq_true, Bool.and_eq_true, decide_eq_true_eq, decide_eq_true_eq] at checked
  obtain ⟨⟨ended, apart⟩, recent⟩ := checked
  cases result with
  | error failure => cases ended
  | ok saved =>
    have sound : renamingHost.files.WellFormed := by decide
    obtain ⟨_, held, again⟩ := copies_current opened sound ran apart
    exact ⟨store, graph, saved, after, opened, sound, ran, apart,
      Option.some.inj (eq_of_beq ended), fun file member text made => (held file member text made).2.2,
      again recent⟩

end ScriptDeps
