import ScriptDeps.Proofs.Closure.Surprises
import ScriptDeps.Proofs.FileSystem.Ensuring

/-!
# Saving imports

Where the way is clear for the copies of renamed imports, one thing only can keep them from being
saved. A copy that is as new as its file is read before it is renewed, whatever it holds, and one
that is not UTF-8 cannot be read. A copy that is older is not looked into.
-/

namespace ScriptDeps

/-- Something is not UTF-8. -/
def Failure.OfText (failure : Failure) : Prop :=
  ∃ fault, failure = .encoding fault

namespace Script

open FileSystem

open Failure (OfText)

/-- The way is clear for the copies of files: their directory is there or can be made, nothing lies
at the path of a copy then or a file that is not denied, and every file can be asked when it was
changed. -/
structure Clear (host : Host) (cache : Path) (files : List ScriptFile) : Prop where
  made : (Action.ensureDirectory cache host).1 = .ok ()
  copies : ∀ file ∈ files, file.generated.isSome = true →
    (Action.ensureDirectory cache host).2.files.isOpen (copyPath cache file).text = true
  sources : ∀ file ∈ files, file.generated.isSome = true →
    ∃ changed, host.files.modifiedAt file.path.text = .ok changed

instance (host : Host) (cache : Path) (files : List ScriptFile) :
    Decidable (Clear host cache files) :=
  decidable_of_iff ((Action.ensureDirectory cache host).1.toOption.isSome = true ∧
      (∀ file ∈ files, file.generated.isSome = true →
        (Action.ensureDirectory cache host).2.files.isOpen (copyPath cache file).text = true) ∧
      ∀ file ∈ files, file.generated.isSome = true →
        (host.files.modifiedAt file.path.text).toOption.isSome = true)
    ⟨fun ⟨made, copies, sources⟩ => ⟨(ok_of_isSome made).elim fun _ returned => returned, copies,
        fun file member renamed => ok_of_isSome (sources file member renamed)⟩,
      fun clear => ⟨by rw [clear.made]; rfl, clear.copies, fun file member renamed => by
        obtain ⟨changed, known⟩ := clear.sources file member renamed
        rw [known]
        rfl⟩⟩

/-- No renamed file's copy lies where that of another one does, or the other file itself. -/
def Alone (fs : FileSystem) (cache : Path) (files : List ScriptFile) : Prop :=
  ∀ first ∈ files, ∀ second ∈ files, first.key ≠ second.key →
    first.generated.isSome = true → second.generated.isSome = true →
    fs.endAt? (copyPath cache first).text ≠ fs.endAt? (copyPath cache second).text ∧
      fs.endAt? (copyPath cache first).text ≠ fs.endAt? second.path.text

instance (fs : FileSystem) (cache : Path) (files : List ScriptFile) :
    Decidable (Alone fs cache files) :=
  inferInstanceAs (Decidable (∀ first ∈ files, ∀ second ∈ files, first.key ≠ second.key →
    first.generated.isSome = true → second.generated.isSome = true →
    fs.endAt? (copyPath cache first).text ≠ fs.endAt? (copyPath cache second).text ∧
      fs.endAt? (copyPath cache first).text ≠ fs.endAt? second.path.text))

/-- The copy of one of the files is spoiled when it is come to. -/
def MeetsSpoiled (host : Host) (cache : Path) (files : List ScriptFile) : Prop :=
  ∃ before file after saved reached, files = before ++ file :: after ∧
    before.mapM (materialize cache) host = (.ok saved, reached) ∧ Spoiled reached.files cache file

/-- The files are named as those are that imports lead to. -/
structure Named (files : List ScriptFile) : Prop where
  plain : ∀ file ∈ files, Slashless file.path.names
  spoken : ∀ file ∈ files, '\x00' ∉ file.path.text.toList

variable {cache : Path} {host after : Host} {file : ScriptFile} {files rest : List ScriptFile}

theorem Named.tail (named : Named (file :: rest)) : Named rest :=
  ⟨fun other member => named.plain other (List.mem_cons_of_mem file member),
    fun other member => named.spoken other (List.mem_cons_of_mem file member)⟩

theorem Clear.tail (clear : Clear host cache (file :: rest)) : Clear host cache rest :=
  ⟨clear.made, fun other member => clear.copies other (List.mem_cons_of_mem file member),
    fun other member => clear.sources other (List.mem_cons_of_mem file member)⟩

theorem Alone.tail {fs : FileSystem} (alone : Alone fs cache (file :: rest)) :
    Alone fs cache rest :=
  fun first among second member => alone first (List.mem_cons_of_mem file among) second
    (List.mem_cons_of_mem file member)

theorem Clear.spoken (clear : Clear host cache files) : '\x00' ∉ cache.text.toList := by
  rcases ensured : Action.ensureDirectory cache host with ⟨result, ready⟩
  obtain rfl : result = .ok () := by rw [← clear.made, ensured]
  exact spoken_of_isDirectory (Action.ensureDirectory_isDirectory ensured)

theorem Clear.isOpen (clear : Clear host cache files)
    (there : host.files.isDirectory cache.text = .ok true) (member : file ∈ files)
    (renamed : file.generated.isSome = true) :
    host.files.isOpen (copyPath cache file).text = true := by
  have copies := clear.copies file member renamed
  rwa [Action.ensureDirectory_there there] at copies

theorem clear_of_isDirectory (there : host.files.isDirectory cache.text = .ok true)
    (copies : ∀ file ∈ files, file.generated.isSome = true →
      host.files.isOpen (copyPath cache file).text = true)
    (sources : ∀ file ∈ files, file.generated.isSome = true →
      ∃ changed, host.files.modifiedAt file.path.text = .ok changed) : Clear host cache files := by
  refine ⟨?_, ?_, sources⟩
  · rw [Action.ensureDirectory_there there]
  · rwa [Action.ensureDirectory_there there]

/-- The way is still clear when the directory has been made sure of. -/
theorem Clear.ready (clear : Clear host cache files) (sound : host.files.WellFormed) : ∃ ready,
    Action.ensureDirectory cache host = (.ok (), ready) ∧
      Keeps (fun _ => False) host.files ready.files ∧ ready.files.WellFormed ∧
      ready.files.isDirectory cache.text = .ok true ∧ Clear ready cache files := by
  obtain ⟨made, copies, sources⟩ := clear
  have grown := Action.ensureDirectory_grows cache host sound
  rcases ensured : Action.ensureDirectory cache host with ⟨result, ready⟩
  rw [ensured] at made copies grown
  obtain rfl : result = .ok () := made
  obtain ⟨added, soundReady⟩ := grown
  have there := Action.ensureDirectory_isDirectory ensured
  exact ⟨ready, rfl, added, soundReady, there, clear_of_isDirectory there copies
    fun file member renamed => modifiedAt_kept (sources file member renamed) added⟩

/-- The way is still clear when a text has been written. -/
theorem Clear.written {path text : String} (clear : Clear host cache files)
    (sound : host.files.WellFormed) (there : host.files.isDirectory cache.text = .ok true)
    (wrote : host.files.writeText path text = .ok after.files) :
    after.files.WellFormed ∧ after.files.isDirectory cache.text = .ok true ∧
      Clear after cache files := by
  obtain ⟨_, _, kept, soundAfter⟩ := writeText_ok sound wrote
  have still := isDirectory_kept sound there kept
  refine ⟨soundAfter, still, clear_of_isDirectory still (fun file member renamed => ?_)
    fun file member renamed => ?_⟩
  · exact isOpen_written sound wrote (clear.isOpen there member renamed)
  · exact modifiedAt_kept (clear.sources file member renamed) kept

/-! ### One copy -/

theorem readText_ofText {fs : FileSystem} {path : String} {content : ByteArray} {time : Int}
    (spoken : '\x00' ∉ path.toList) (lies : fs.stat path = .ok (.file content time false)) :
    FailsIn OfText (fs.readText path) := by
  refine FailsIn.map ?_ _
  rw [readExact, readBytes_of_stat spoken lies, ok_bind]
  split
  · exact failsIn_ok _
  · exact failsIn_error ⟨_, rfl⟩

/-- Whether a copy is current can be told, unless it is read and is not UTF-8, if it can be written
once its directory has been made sure of. -/
theorem isCurrent_ofText {fs ready : FileSystem} {copy source : Path} {text : String}
    (sound : fs.WellFormed) (kept : Keeps (fun _ => False) fs ready)
    (free : ready.isOpen copy.text = true)
    (known : ∃ changed, fs.modifiedAt source.text = .ok changed) :
    FailsIn OfText (isCurrent fs copy source text) := by
  intro failure failed
  obtain refused | ⟨present, asked, failed⟩ := bind_error_iff.mp failed
  · have refused : fs.node?At copy.text = .error failure := by
      refine (bind_error_iff.mp refused).resolve_right ?_
      rintro ⟨_, _, done⟩
      cases done
    have long := (node?At_error_iff.mp refused).1.kept kept
    exact absurd long (not_overlong_of_isOpen free)
  cases present with
  | false => cases failed
  | true =>
    obtain ⟨spoken, place, node, walked⟩ := isPresent_iff.mp asked
    have lies := (walk_sound sound walked).1
    have still := (kept.nodes place node lies).resolve_right fun file => file.1
    have later := walk_kept walked kept (Found.filled_present _ _ _)
    rw [isOpen, later, Found.place, nodeAt, still] at free
    have copied := modifiedAt_iff.mpr ⟨spoken, place, node, walked, rfl⟩
    obtain ⟨changed, known⟩ := known
    rw [copied, known] at failed
    dsimp only [ok_bind] at failed
    rw [if_neg (by decide)] at failed
    split at failed
    · cases failed
    · cases node with
      | file content time denied =>
        obtain rfl : denied = false := by simpa [Node.isFile, Node.isDenied] using free
        exact (readText_ofText spoken (stat_of_walk walked)).map _ failure failed
      | directory denied => cases free
      | link target => cases free

/-- An import is put in place unless its copy is not UTF-8, and the way is then clear for those
after it. -/
theorem materialize_step (named : Named (file :: rest)) (sound : host.files.WellFormed)
    (clear : Clear host cache (file :: rest)) :
    FailsIn OfText (materialize cache file host).1 ∧ ∀ saved after,
      materialize cache file host = (.ok saved, after) →
        after.files.WellFormed ∧ Clear after cache rest := by
  cases generated : file.generated with
  | none =>
    rw [materialize, generated]
    refine ⟨failsIn_ok _, fun saved after ran => ?_⟩
    obtain ⟨-, rfl⟩ := Prod.mk.inj ran
    exact ⟨sound, clear.tail⟩
  | some text =>
    have renamed : file.generated.isSome = true := by rw [generated]; rfl
    obtain ⟨ready, ensured, added, soundReady, there, clearReady⟩ := clear.ready sound
    have free := clearReady.isOpen there List.mem_cons_self renamed
    have known := clear.sources file List.mem_cons_self renamed
    rw [materialize_some generated, copyPath_parent (named.plain file List.mem_cons_self), ensured]
    cases asked : isCurrent host.files (copyPath cache file) file.path text with
    | error failure =>
      have unread := isCurrent_ofText sound added free known failure asked
      exact ⟨failsIn_error unread, fun saved after ran => by cases ran⟩
    | ok current =>
      cases current with
      | true =>
        refine ⟨failsIn_ok _, fun saved after ran => ?_⟩
        obtain ⟨-, rfl⟩ := Prod.mk.inj ran
        exact ⟨sound, clear.tail⟩
      | false =>
        have spoken := copyPath_spoken clear.spoken (named.spoken file List.mem_cons_self)
        obtain ⟨written, wrote⟩ := writeText_of_isOpen spoken free text
        dsimp only
        rw [wrote]
        refine ⟨failsIn_ok _, fun saved after ran => ?_⟩
        obtain ⟨-, same⟩ := Prod.mk.inj ran
        have wrote : ready.files.writeText (copyPath cache file).text text = .ok after.files :=
          same ▸ wrote
        obtain ⟨soundAfter, _, clearAfter⟩ := clearReady.written soundReady there wrote
        exact ⟨soundAfter, clearAfter.tail⟩

theorem materialize_returns_iff (named : Named (file :: rest)) (sound : host.files.WellFormed)
    (clear : Clear host cache (file :: rest)) :
    (∃ saved, (materialize cache file host).1 = .ok saved) ↔ ¬Spoiled host.files cache file := by
  have unforeseen : FailsIn (·.isForeseen = false) (materialize cache file host).1 :=
    (materialize_step named sound clear).1.mono fun failure ⟨fault, same⟩ => same ▸ rfl
  have spoken := named.spoken file List.mem_cons_self
  rw [← surprises_materialize (copyPath_spoken clear.spoken spoken) spoken,
    surprises_iff_not_returns unforeseen, not_not]

/-! ### All copies -/

theorem materializeEach_ofText (named : Named files) (sound : host.files.WellFormed)
    (clear : Clear host cache files) :
    FailsIn OfText (files.mapM (materialize cache) host).1 := by
  induction files generalizing host with
  | nil => exact failsIn_ok _
  | cons file rest ih =>
    obtain ⟨fails, onward⟩ := materialize_step named sound clear
    rw [List.mapM_cons, run_bind]
    rcases ran : materialize cache file host with ⟨failure | saved, reached⟩
    · rw [ran] at fails
      exact failsIn_error (fails failure rfl)
    · obtain ⟨soundReached, clearReached⟩ := onward saved reached ran
      have later := ih named.tail soundReached clearReached
      dsimp only
      rw [run_bind]
      rcases others : rest.mapM (materialize cache) reached with ⟨failure | _, last⟩
      · rw [others] at later
        exact failsIn_error (later failure rfl)
      · exact failsIn_ok _

theorem materializeAll_ofText {graph : ImportGraph} (named : Named graph.imports)
    (sound : host.files.WellFormed) (clear : Clear host cache graph.imports) :
    FailsIn OfText (materializeAll cache graph host).1 := by
  have each := materializeEach_ofText named sound clear
  rw [materializeAll_eq]
  generalize graph.imports.mapM (materialize cache) host = outcome at each ⊢
  obtain ⟨failure | saved, after⟩ := outcome
  · exact failsIn_error (each failure rfl)
  · exact failsIn_ok _

theorem materializeAll_returns_iff {graph : ImportGraph} :
    (∃ saved, (materializeAll cache graph host).1 = .ok saved) ↔
      ∃ saved, (graph.imports.mapM (materialize cache) host).1 = .ok saved := by
  rw [materializeAll_eq]
  rcases graph.imports.mapM (materialize cache) host with ⟨_ | _, after⟩ <;> simp

/-! ### Copies that lie apart -/

theorem spoiled_congr {fs fs' : FileSystem}
    (copy : fs'.stat (copyPath cache file).text = fs.stat (copyPath cache file).text)
    (source : fs'.stat file.path.text = fs.stat file.path.text) :
    Spoiled fs' cache file ↔ Spoiled fs cache file := by
  have recent : UpToDate fs' (copyPath cache file) file.path ↔
      UpToDate fs (copyPath cache file) file.path := by
    rw [UpToDate, UpToDate, modifiedAt, modifiedAt, modifiedAt, modifiedAt, copy, source]
  have illegible : fs'.Illegible (copyPath cache file).text ↔
      fs.Illegible (copyPath cache file).text := by
    rw [Illegible, Illegible, readBytes, readBytes, copy]
  constructor
  · rintro ⟨renamed, one, two⟩
    exact ⟨renamed, recent.mp one, illegible.mp two⟩
  · rintro ⟨renamed, one, two⟩
    exact ⟨renamed, recent.mpr one, illegible.mpr two⟩

/-- In a directory that is there, an import is put in place by writing its copy at most. -/
theorem materialize_writes {saved : String} (plain : Slashless file.path.names)
    (there : host.files.isDirectory cache.text = .ok true)
    (ran : materialize cache file host = (.ok saved, after)) :
    after = host ∨ file.generated.isSome = true ∧ ∃ text,
      host.files.writeText (copyPath cache file).text text = .ok after.files := by
  cases generated : file.generated with
  | none =>
    rw [materialize, generated] at ran
    exact .inl (Prod.mk.inj ran).2.symm
  | some text =>
    obtain ⟨_, ⟨_, same⟩ | ⟨ready, ensured, wrote⟩⟩ := materialize_cases generated ran
    · exact .inl same
    · rw [copyPath_parent plain, Action.ensureDirectory_there there] at ensured
      obtain ⟨-, rfl⟩ := Prod.mk.inj ensured
      exact .inr ⟨rfl, text, wrote⟩

/-- Putting an import in place changes nothing about the others, if their copies lie apart. -/
theorem materialize_others {saved : String} (named : Named (file :: rest))
    (sound : host.files.WellFormed) (clear : Clear host cache (file :: rest))
    (there : host.files.isDirectory cache.text = .ok true)
    (alone : Alone host.files cache (file :: rest)) (new : file.key ∉ keysOf rest)
    (ran : materialize cache file host = (.ok saved, after)) :
    after.files.WellFormed ∧ Clear after cache rest ∧
      after.files.isDirectory cache.text = .ok true ∧ Alone after.files cache rest ∧
      ∀ other ∈ rest, Spoiled after.files cache other ↔ Spoiled host.files cache other := by
  obtain rfl | ⟨renamed, text, wrote⟩ :=
    materialize_writes (named.plain file List.mem_cons_self) there ran
  · exact ⟨sound, clear.tail, there, alone.tail, fun _ _ => Iff.rfl⟩
  obtain ⟨soundAfter, still, clearAfter⟩ := clear.written sound there wrote
  have copied : ∀ {other}, other ∈ rest → other.generated.isSome = true →
      (host.files.endAt? (copyPath cache other).text).isSome = true := fun member renamed =>
    endAt?_of_isOpen (clear.tail.isOpen there member renamed)
  have known : ∀ {other}, other ∈ rest → other.generated.isSome = true →
      (host.files.endAt? other.path.text).isSome = true := fun member renamed =>
    endAt?_of_modifiedAt (clear.tail.sources _ member renamed)
  refine ⟨soundAfter, clearAfter.tail, still, ?_, fun other member => ?_⟩
  · intro first among second member different one two
    rw [endAt?_written sound wrote (copied among one),
      endAt?_written sound wrote (copied member two), endAt?_written sound wrote (known member two)]
    exact alone.tail first among second member different one two
  · by_cases made : other.generated.isSome = true
    · have different : file.key ≠ other.key := fun same =>
        new (same ▸ List.mem_map_of_mem member)
      obtain ⟨copies, source⟩ := alone file List.mem_cons_self other
        (List.mem_cons_of_mem file member) different renamed made
      exact spoiled_congr (stat_written sound wrote (copied member made) copies)
        (stat_written sound wrote (known member made) source)
    · exact iff_of_false (fun spoiled => made spoiled.renamed) fun spoiled => made spoiled.renamed

theorem materializeEach_returns_iff (named : Named files) (unique : (keysOf files).Nodup)
    (sound : host.files.WellFormed) (clear : Clear host cache files)
    (there : host.files.isDirectory cache.text = .ok true) (alone : Alone host.files cache files) :
    (∃ saved, (files.mapM (materialize cache) host).1 = .ok saved) ↔
      ∀ file ∈ files, ¬Spoiled host.files cache file := by
  induction files generalizing host with
  | nil => exact iff_of_true ⟨[], rfl⟩ nofun
  | cons file rest ih =>
    obtain ⟨new, unique⟩ := List.nodup_cons.mp unique
    have own := materialize_returns_iff named sound clear
    rw [List.forall_mem_cons, ← own, List.mapM_cons, run_bind]
    rcases ran : materialize cache file host with ⟨failure | saved, reached⟩
    · simp
    · obtain ⟨soundReached, clearReached, still, apart, same⟩ :=
        materialize_others named sound clear there alone new ran
      have later := ih named.tail unique soundReached clearReached still apart
      have others : (∀ other ∈ rest, ¬Spoiled reached.files cache other) ↔
          ∀ other ∈ rest, ¬Spoiled host.files cache other :=
        forall₂_congr fun other member => not_congr (same other member)
      rw [← others, ← later]
      dsimp only
      rw [run_bind]
      rcases rest.mapM (materialize cache) reached with ⟨_ | _, last⟩
      · simp
      · simp

end Script

open Script

/-- Where the way is clear, saving the imports of a script fails exactly at a renamed one whose copy
is as new as its file when it is come to, and not UTF-8. If the cache directory is there and the
copies lie apart, it is enough to look at them beforehand. Once the imports have been saved, every
copy holds its generated text, whatever it held before. -/
theorem imports_saved_iff {packages : Option PackageStore} {extraDirs : List String}
    {script : String} {origin host : Host} {store : PackageStore} {graph : ImportGraph}
    {cache : Path} (opened : openScript packages extraDirs script origin = .ok (store, graph))
    (plain : Slashless origin.files.workingDirectory) (sound : host.files.WellFormed)
    (clear : Clear host cache graph.imports) :
    ((∃ saved, (materializeAll cache graph host).1 = .ok saved) ↔
        ¬MeetsSpoiled host cache graph.imports) ∧
      FailsIn Failure.OfText (materializeAll cache graph host).1 ∧
      (host.files.isDirectory cache.text = .ok true → Alone host.files cache graph.imports →
        ((∃ saved, (materializeAll cache graph host).1 = .ok saved) ↔
          ∀ file ∈ graph.imports, ¬Spoiled host.files cache file)) ∧
      ∀ saved after, materializeAll cache graph host = (.ok saved, after) →
        CopiesApart after.files cache graph.imports →
        ∀ file ∈ graph.imports, ∀ text, file.generated = some text →
          after.files.readText (copyPath cache file).text = .ok text := by
  obtain ⟨path, _, made⟩ := openScript_ok opened
  have read := within_readFrom made
  obtain ⟨edges, traced⟩ := traced_of_within made
  have unique := (List.nodup_cons.mp (ImportGraph.files_unique traced).1).2
  have named : Named graph.imports :=
    ⟨imports_slashless opened fun _ _ => .inr plain, fun file member => (read file member).spoken⟩
  have fails := materializeAll_ofText named sound clear
  have unforeseen : FailsIn (·.isForeseen = false) (materializeAll cache graph host).1 :=
    fails.mono fun failure ⟨fault, same⟩ => same ▸ rfl
  refine ⟨?_, fails, fun there alone => ?_, fun saved after ran apart => ?_⟩
  · rw [MeetsSpoiled, ← surprises_materializeAll clear.spoken read,
      surprises_iff_not_returns unforeseen, not_not]
  · rw [materializeAll_returns_iff]
    exact materializeEach_returns_iff named unique sound clear there alone
  · intro file member text generated
    rw [materializeAll_eq] at ran
    split at ran
    · rename_i each after ranEach
      obtain ⟨-, rfl⟩ := Prod.mk.inj ran
      obtain ⟨_, _, _, held⟩ := materializeEach_ok sound (fun file member text generated =>
        (generated_ok (read file member) generated).1) unique ranEach apart
      obtain ⟨_, _, _, _, text⟩ := held file member text generated
      exact text
    · cases ran

/-- A script that renames a namespace of what it imports, with a copy in the cache that was changed
at some time and is not UTF-8. -/
def corruptHost (copied : Int) : Host where
  files := {
    nodes := [
      (["w"], .directory false),
      (["a.cs", "w"], .file "//css_inc b.cs,rename_namespace(B,C)".toUTF8 0 false),
      (["b.cs", "w"], .file "namespace B;".toUTF8 0 false),
      (["c"], .directory false),
      (["b.7712551e296f.cs", "c"], .file ⟨#[255]⟩ copied false)]
    workingDirectory := [] }
  environment := [("HOME", "/")]
  modules := []
  worker := .missing

theorem corruptHost_illegible (copied : Int) :
    (corruptHost copied).files.Illegible "/c/b.7712551e296f.cs" :=
  ⟨⟨#[255]⟩, ⟨0, 1, 255, .badStart⟩, rfl, by decide +kernel⟩

/-- A copy that is older than its file is written again, though it is not UTF-8. -/
theorem imports_saved_stale : ∃ store graph saved after,
    openScript none [] "/w/a.cs" (corruptHost (-1)) = .ok (store, graph) ∧
      Slashless (corruptHost (-1)).files.workingDirectory ∧ (corruptHost (-1)).files.WellFormed ∧
      Clear (corruptHost (-1)) (.ofText "/c") graph.imports ∧
      (corruptHost (-1)).files.isDirectory "/c" = .ok true ∧
      Alone (corruptHost (-1)).files (.ofText "/c") graph.imports ∧
      (corruptHost (-1)).files.Illegible "/c/b.7712551e296f.cs" ∧
      materializeAll (.ofText "/c") graph (corruptHost (-1)) = (.ok saved, after) ∧
      after.files.readText "/c/b.7712551e296f.cs" = .ok "namespace C;" := by
  obtain ⟨⟨store, graph⟩, opened, checked⟩ := ok_of_any (by decide +kernel :
    (openScript none [] "/w/a.cs" (corruptHost (-1))).toOption.any
      (fun (made : PackageStore × ImportGraph) =>
        decide (Clear (corruptHost (-1)) (.ofText "/c") made.2.imports) &&
          decide (Alone (corruptHost (-1)).files (.ofText "/c") made.2.imports) &&
          decide (∀ file ∈ made.2.imports,
            ¬UpToDate (corruptHost (-1)).files (copyPath (.ofText "/c") file) file.path) &&
          decide (CopiesApart (materializeAll (.ofText "/c") made.2 (corruptHost (-1))).2.files
            (.ofText "/c") made.2.imports) &&
          decide (∃ file ∈ made.2.imports, file.generated = some "namespace C;" ∧
            (copyPath (.ofText "/c") file).text = "/c/b.7712551e296f.cs")) = true)
  simp only [Bool.and_eq_true, decide_eq_true_eq] at checked
  obtain ⟨⟨⟨⟨clear, alone⟩, stale⟩, apart⟩, file, member, generated, copy⟩ := checked
  have plain : Slashless (corruptHost (-1)).files.workingDirectory := slashless_nil
  have sound : (corruptHost (-1)).files.WellFormed := by decide
  have there : (corruptHost (-1)).files.isDirectory (Path.ofText "/c").text = .ok true := by decide
  obtain ⟨_, _, returns, held⟩ := imports_saved_iff opened plain sound clear
  obtain ⟨saved, returned⟩ := (returns there alone).mpr fun file member spoiled =>
    stale file member spoiled.recent
  rcases ran : materializeAll (.ofText "/c") graph (corruptHost (-1)) with ⟨result, after⟩
  rw [ran] at returned apart
  obtain rfl : result = .ok saved := returned
  have text := held saved after ran apart file member _ generated
  rw [copy] at text
  exact ⟨store, graph, saved, after, opened, plain, sound, clear, there, alone,
    corruptHost_illegible _, ran, text⟩

/-- A copy that is newer than its file is read, and then the import cannot be saved. -/
theorem imports_unsaved_corrupt : ∃ store graph fault,
    openScript none [] "/w/a.cs" (corruptHost 1) = .ok (store, graph) ∧
      (corruptHost 1).files.WellFormed ∧ Clear (corruptHost 1) (.ofText "/c") graph.imports ∧
      (∀ file ∈ graph.imports, file.generated.isSome = true ∧
        (corruptHost 1).files.stat (copyPath (.ofText "/c") file).text =
          .ok (.file ⟨#[255]⟩ 1 false)) ∧
      (materializeAll (.ofText "/c") graph (corruptHost 1)).1 = .error (.encoding fault) := by
  obtain ⟨⟨store, graph⟩, opened, checked⟩ := ok_of_any (by decide +kernel :
    (openScript none [] "/w/a.cs" (corruptHost 1)).toOption.any
      (fun (made : PackageStore × ImportGraph) =>
        decide (Clear (corruptHost 1) (.ofText "/c") made.2.imports) &&
          decide (∀ file ∈ made.2.imports, file.generated.isSome = true ∧
            (copyPath (.ofText "/c") file).text = "/c/b.7712551e296f.cs") &&
          decide ((materializeAll (.ofText "/c") made.2 (corruptHost 1)).1 =
            .error (.encoding ⟨0, 1, 255, .badStart⟩))) = true)
  simp only [Bool.and_eq_true, decide_eq_true_eq] at checked
  obtain ⟨⟨clear, copies⟩, failed⟩ := checked
  refine ⟨store, graph, _, opened, by decide, clear, fun file member => ?_, failed⟩
  obtain ⟨renamed, copy⟩ := copies file member
  refine ⟨renamed, ?_⟩
  rw [copy]
  rfl

end ScriptDeps
