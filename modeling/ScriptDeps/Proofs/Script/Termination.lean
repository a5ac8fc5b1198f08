import Mathlib.Algebra.Order.BigOperators.Group.List
import Mathlib.Algebra.Order.Group.Nat
import Mathlib.Data.Set.Finite.List
import ScriptDeps.Proofs.FileSystem.Texts
import ScriptDeps.Proofs.Script.Depth
import ScriptDeps.Proofs.Script.ImportLine

/-!
# Termination

What is visited when nothing bounds the depth. Every key is visited once, and the paths among them
are no longer than the file system takes. So a traversal ends exactly if the renamings that it meets
do not grow without bound.
-/

namespace ScriptDeps.ImportGraph

open Script

/-- The script at a path as it sees itself. -/
def rootFile (fs : FileSystem) (path : Path) : Except Failure ScriptFile := do
  scriptFile fs path (← readScript fs path) []

/-- The keys visited from a script with at most `depth` files inside one another, the last one
first. -/
def keysWithin (depth : Nat) (fs : FileSystem) (extraDirs : List String) (path : Path) :
    List VisitKey :=
  match rootFile fs path with
  | .ok root => (followFrom fs extraDirs depth root).2.visited
  | .error _ => []

/-- The keys visited from a script when nothing bounds the depth. -/
def visitedKeys (fs : FileSystem) (extraDirs : List String) (path : Path) : Set VisitKey :=
  {key | ∃ depth, key ∈ keysWithin depth fs extraDirs path}

/-- From some depth on, the answer is always the same, and is not that imports are nested too
deeply. -/
def Ends (fs : FileSystem) (extraDirs : List String) (path : Path) : Prop :=
  ∃ depth, Depthless (within depth fs extraDirs path) ∧
    ∀ deeper, depth ≤ deeper → within deeper fs extraDirs path = within depth fs extraDirs path

/-- The visits are by no more renamings than a bound, of names with no more bytes. -/
def RenamingsBounded (keys : Set VisitKey) : Prop :=
  ∃ bound, ∀ key ∈ keys, key.2.length ≤ bound ∧
    ∀ names ∈ key.2, names.1.utf8ByteSize ≤ bound ∧ names.2.utf8ByteSize ≤ bound

/-! ### Each key once -/

theorem nodup_kept (fs : FileSystem) : KeptByVisits fs fun t => t.visited.Nodup where
  enter unique _ new parsed := List.nodup_cons.mpr ⟨scriptFile_key parsed ▸ new, unique⟩
  finish unique := unique

theorem keysWithin_keeps {fs : FileSystem} {inv : Traversal → Prop} (kept : KeptByVisits fs inv)
    (initial : inv {}) (depth : Nat) (extraDirs : List String) (path : Path) :
    ∃ t, inv t ∧ keysWithin depth fs extraDirs path = t.visited := by
  rw [keysWithin]
  cases root : rootFile fs path with
  | error failure => exact ⟨{}, initial, rfl⟩
  | ok file =>
    obtain ⟨content, read, parsed⟩ := bind_ok root
    have entered := kept.enter initial read (List.not_mem_nil) parsed
    exact ⟨_, @followImports_keeps fs extraDirs _ _ (visit_keeps kept depth) file
      file.directives.imports _ entered, rfl⟩

theorem keysWithin_nodup (depth : Nat) (fs : FileSystem) (extraDirs : List String) (path : Path) :
    (keysWithin depth fs extraDirs path).Nodup := by
  obtain ⟨t, unique, same⟩ := keysWithin_keeps (nodup_kept fs) .nil depth extraDirs path
  exact same ▸ unique

/-! ### Short paths -/

theorem readScript_short {fs : FileSystem} {path : Path} {content : String}
    (read : readScript fs path = .ok content) :
    path.text.utf8ByteSize ≤ FileSystem.maxPathBytes := by
  by_contra long
  have walks : ∃ fault, fs.stat path.text = .error fault := by
    rw [FileSystem.stat, FileSystem.walk]
    split
    · exact ⟨_, rfl⟩
    · rw [if_pos (Nat.lt_of_not_le long)]
      exact ⟨_, rfl⟩
  obtain ⟨fault, failed⟩ := walks
  rw [readScript, FileSystem.readUnmarked, FileSystem.readBytes, failed] at read
  rcases checked : FileSystem.checkPath path.text with failure | done
  · rw [checked] at read
    cases failure <;> cases read
  · rw [checked] at read
    cases read

theorem short_kept (fs : FileSystem) : KeptByVisits fs fun t =>
    ∀ key ∈ t.visited, key.1.utf8ByteSize ≤ FileSystem.maxPathBytes where
  enter short read _ parsed key visited := by
    rcases List.mem_cons.mp visited with rfl | visited
    · rw [scriptFile_key parsed]
      exact readScript_short read
    · exact short key visited
  finish short := short

theorem visitedKeys_short {fs : FileSystem} {extraDirs : List String} {path : Path}
    {key : VisitKey} (visited : key ∈ visitedKeys fs extraDirs path) :
    key.1.utf8ByteSize ≤ FileSystem.maxPathBytes := by
  obtain ⟨depth, visited⟩ := visited
  obtain ⟨t, short, same⟩ := keysWithin_keeps (short_kept fs) nofun depth extraDirs path
  exact short key (same ▸ visited)

/-! ### Finitely many keys -/

theorem finite_texts (size : Nat) : {text : String | text.utf8ByteSize ≤ size}.Finite := by
  have bytes : Finite UInt8 := .of_injective UInt8.toFin fun _ _ => UInt8.toFin_inj.mp
  let spell : String → List UInt8 := fun text => text.toByteArray.data.toList
  refine (@Set.Finite.preimage _ _ spell _ ?_ (List.finite_length_le UInt8 size)).subset ?_
  · intro a _ b _ same
    exact String.toByteArray_inj.mp (ByteArray.ext (Array.toList_inj.mp same))
  · exact fun text short => by simpa [spell] using short

theorem finite_lists {α : Type} {items : Set α} (finite : items.Finite) (size : Nat) :
    {list : List α | list.length ≤ size ∧ ∀ a ∈ list, a ∈ items}.Finite := by
  have := finite.to_subtype
  refine ((List.finite_length_le items size).image (List.map Subtype.val)).subset ?_
  rintro list ⟨short, each⟩
  exact ⟨list.attach.map fun a => ⟨a.1, each a.1 a.2⟩, by simpa using short, by simp⟩

theorem visitedKeys_finite {fs : FileSystem} {extraDirs : List String} {path : Path} :
    (visitedKeys fs extraDirs path).Finite ↔ RenamingsBounded (visitedKeys fs extraDirs path) := by
  constructor
  · intro finite
    let spent : Renaming → Nat := fun names => names.1.utf8ByteSize + names.2.utf8ByteSize
    let size : VisitKey → Nat := fun key => key.2.length + (key.2.map spent).sum
    obtain ⟨bound, above⟩ := (finite.image size).bddAbove
    refine ⟨bound, fun key visited => ?_⟩
    have total : size key ≤ bound := above (Set.mem_image_of_mem size visited)
    refine ⟨le_trans (Nat.le_add_right _ _) total, fun names member => ?_⟩
    have part : spent names ≤ (key.2.map spent).sum :=
      List.single_le_sum (fun _ _ => Nat.zero_le _) _ (List.mem_map_of_mem member)
    have both : spent names ≤ bound := le_trans part (le_trans (Nat.le_add_left _ _) total)
    exact ⟨le_trans (Nat.le_add_right _ _) both, le_trans (Nat.le_add_left _ _) both⟩
  · rintro ⟨bound, bounded⟩
    have names := (finite_texts bound).prod (finite_texts bound)
    refine ((finite_texts FileSystem.maxPathBytes).prod (finite_lists names bound)).subset ?_
    exact fun key visited => ⟨visitedKeys_short visited, bounded key visited⟩

/-! ### An end -/

theorem followFrom_settles {fs : FileSystem} {extraDirs : List String} {depth : Nat}
    {root : ScriptFile} (short : (followFrom fs extraDirs depth root).2.visited.length ≤ depth) :
    Depthless (followFrom fs extraDirs depth root).1 ∧
      followFrom fs extraDirs (depth + 1) root = followFrom fs extraDirs depth root := by
  refine @followImports_settles fs extraDirs depth (depth + 1) _ _ _ ?_ (Nat.lt_succ_of_le short)
  intro path renamings t later short
  have started : 1 ≤ t.visited.length := later.length_le
  exact visit_settles (by omega)

theorem within_eq (depth : Nat) (fs : FileSystem) (extraDirs : List String) (path : Path) :
    within depth fs extraDirs path = do
      let root ← rootFile fs path
      let (followed, t) := followFrom fs extraDirs depth root
      followed
      return ⟨root, t.finished⟩ := by
  rw [within, rootFile]
  cases readScript fs path <;> rfl

theorem within_settles {fs : FileSystem} {extraDirs : List String} {path : Path} {depth : Nat}
    (short : (keysWithin depth fs extraDirs path).length ≤ depth) :
    Depthless (within depth fs extraDirs path) ∧
      within (depth + 1) fs extraDirs path = within depth fs extraDirs path := by
  rw [within_eq, within_eq]
  rw [keysWithin] at short
  cases root : rootFile fs path with
  | error failure =>
    have reads : Depthless (rootFile fs path) :=
      (readScript_depthless fs path).bind fun _ => scriptFile_depthless fs path _ []
    rw [root] at reads
    exact ⟨depthless_error reads.other, rfl⟩
  | ok file =>
    rw [root] at short
    obtain ⟨depthless, same⟩ := followFrom_settles short
    rw [ok_bind, ok_bind, same]
    exact ⟨depthless.map _, rfl⟩

theorem ends_of_finite {fs : FileSystem} {extraDirs : List String} {path : Path}
    (finite : (visitedKeys fs extraDirs path).Finite) : Ends fs extraDirs path := by
  have few : ∀ depth, (keysWithin depth fs extraDirs path).length ≤ finite.toFinset.card := by
    intro depth
    rw [← List.toFinset_card_of_nodup (keysWithin_nodup depth fs extraDirs path)]
    refine Finset.card_le_card fun key visited => ?_
    exact finite.mem_toFinset.mpr ⟨depth, List.mem_toFinset.mp visited⟩
  refine ⟨finite.toFinset.card, (within_settles (few _)).1, fun deeper more => ?_⟩
  induction deeper, more using Nat.le_induction with
  | base => rfl
  | succ deeper more ih => rw [(within_settles (le_trans (few deeper) more)).2, ih]

/-- Every key is visited once, and the traversal ends after finitely many exactly if the renamings
do not grow without bound. -/
theorem traversal_ends_iff (fs : FileSystem) (extraDirs : List String) (path : Path) :
    (∀ depth, (keysWithin depth fs extraDirs path).Nodup) ∧
      ((visitedKeys fs extraDirs path).Finite ∧ Ends fs extraDirs path ↔
        RenamingsBounded (visitedKeys fs extraDirs path)) := by
  refine ⟨fun depth => keysWithin_nodup depth fs extraDirs path, fun ends => ?_, fun bounded => ?_⟩
  · exact visitedKeys_finite.mp ends.1
  · have finite := visitedKeys_finite.mpr bounded
    exact ⟨finite, ends_of_finite finite⟩

/-! ### Renamings that grow -/

/-- Two scripts that import each other, each renaming the namespace that the other one renames
to. -/
def growingFiles : FileSystem where
  nodes := [
    (["w"], .directory false),
    (["a.cs", "w"], .file "//css_inc b.cs,rename_namespace(A,B.C)".toUTF8 0 false),
    (["b.cs", "w"], .file "//css_inc a.cs,rename_namespace(B,A)".toUTF8 0 false)]
  workingDirectory := []

/-- A name that is longer by one part at each step. -/
def grown : Nat → List Char
  | 0 => ['B']
  | n + 1 => grown n ++ ['.', 'C']

def growingPath (step : Nat) : Path :=
  .ofText (if step % 2 = 0 then "/w/b.cs" else "/w/a.cs")

def growingNames (step : Nat) : List Renaming :=
  [(if step % 2 = 0 then "A" else "B", String.ofList (grown (step / 2 + 1)))]

theorem grown_length (n : Nat) : (grown n).length = 2 * n + 1 := by
  induction n with
  | zero => rfl
  | succ n ih => rw [grown, List.length_append, ih]; rfl

theorem grown_dotted (n : Nat) : IsDotted (grown n) := by
  induction n with
  | zero => exact ⟨nofun, by decide⟩
  | succ n ih =>
    refine ⟨by simp [grown], ?_⟩
    rw [grown, List.all_append, ih.all]
    decide

theorem growingNames_injective : Function.Injective growingNames := by
  intro step other same
  have names := List.head_eq_of_cons_eq same
  have longer := congrArg List.length (String.ofList_injective (congrArg Prod.snd names))
  have parity := congrArg Prod.fst names
  rw [grown_length, grown_length] at longer
  have even : step % 2 = 0 ↔ other % 2 = 0 := by
    by_cases first : step % 2 = 0 <;> by_cases second : other % 2 = 0 <;> simp_all
  omega

theorem growingFiles_reads :
    readScript growingFiles (.ofText "/w/a.cs") = .ok "//css_inc b.cs,rename_namespace(A,B.C)" ∧
      readScript growingFiles (.ofText "/w/b.cs") = .ok "//css_inc a.cs,rename_namespace(B,A)" := by
  constructor
  · exact readScript_of_stat (by decide +kernel) (by rfl) (by decide +kernel) rfl
  · exact readScript_of_stat (by decide +kernel) (by rfl) (by decide +kernel) rfl

theorem growingFiles_locates :
    locate growingFiles ["/w"] (.ofText "/w/a.cs") (String.ofList "b.cs".toList) =
        .ok (.ofText "/w/b.cs") ∧
      locate growingFiles ["/w"] (.ofText "/w/b.cs") (String.ofList "a.cs".toList) =
        .ok (.ofText "/w/a.cs") := by
  constructor <;> decide +kernel

/-- A line, renamed, is that of the next step. -/
theorem growing_file {path : Path} {content : String} {file old rest new : List Char} {c : Char}
    (read : readScript growingFiles path = .ok content)
    (line : content = String.ofList (importLine file old (c :: rest)))
    (fileDotted : IsDotted file) (oldDotted : IsDotted old) (newDotted : IsDotted (new ++ rest))
    (first : c ∉ lineStart ++ (file ++ ',' :: (optionStart ++ (old ++ [',']))))
    (last : c ∉ rest ++ [')']) (ends : Text.startsWithWord (rest ++ [')']) = false) :
    ∃ content parsed, readScript growingFiles path = .ok content ∧
      scriptFile growingFiles path content [(String.ofList [c], String.ofList new)] = .ok parsed ∧
      parsed.searchDirs = [] ∧ parsed.directives.imports =
        [⟨String.ofList file, path.text, [(String.ofList old, String.ofList (new ++ rest))], 1⟩] := by
  have plain : '\\' ∉ new := fun member =>
    absurd (newDotted.parts _ (List.mem_append_left rest member)) (by decide)
  have renamed := rename_importLine first last ends plain
  rw [← line] at renamed
  obtain ⟨parsed, made⟩ := scriptFile_importLine fileDotted oldDotted newDotted renamed
  exact ⟨content, parsed, read, made⟩

/-- What is visited at a step imports what is visited at the next one. -/
theorem growing_step (step : Nat) : ∃ content file imported,
    readScript growingFiles (growingPath step) = .ok content ∧
      scriptFile growingFiles (growingPath step) content (growingNames step) = .ok file ∧
      file.searchDirs = [] ∧ file.directives.imports = [imported] ∧
      imported.renamings = growingNames (step + 1) ∧
      locate growingFiles ["/w"] (growingPath step) imported.name =
        .ok (growingPath (step + 1)) := by
  obtain ⟨n, even | odd⟩ : ∃ n, step = 2 * n ∨ step = 2 * n + 1 := ⟨step / 2, by omega⟩
  · have path : growingPath step = .ofText "/w/b.cs" := by rw [growingPath, if_pos (by omega)]
    have next : growingPath (step + 1) = .ofText "/w/a.cs" := by
      rw [growingPath, if_neg (by omega)]
    have names : growingNames step = [("A", String.ofList (grown (n + 1)))] := by
      rw [growingNames, if_pos (by omega), show step / 2 = n by omega]
    have nextNames : growingNames (step + 1) = [("B", String.ofList (grown (n + 1)))] := by
      rw [growingNames, if_neg (by omega), show (step + 1) / 2 = n by omega]
    obtain ⟨content, file, read, parsed, none, only⟩ := @growing_file (.ofText "/w/b.cs") _
      "a.cs".toList ['B'] [] (grown (n + 1)) 'A' growingFiles_reads.2 (by decide +kernel)
      ⟨by decide, by decide⟩ ⟨by decide, by decide⟩ (by simpa using grown_dotted (n + 1))
      (by decide +kernel) (by decide) (by decide +kernel)
    rw [List.append_nil] at only
    rw [path, next, names, nextNames]
    exact ⟨content, file, _, read, parsed, none, only, rfl, growingFiles_locates.2⟩
  · have path : growingPath step = .ofText "/w/a.cs" := by rw [growingPath, if_neg (by omega)]
    have next : growingPath (step + 1) = .ofText "/w/b.cs" := by
      rw [growingPath, if_pos (by omega)]
    have names : growingNames step = [("B", String.ofList (grown (n + 1)))] := by
      rw [growingNames, if_neg (by omega), show step / 2 = n by omega]
    have nextNames : growingNames (step + 1) = [("A", String.ofList (grown (n + 1 + 1)))] := by
      rw [growingNames, if_pos (by omega), show (step + 1) / 2 = n + 1 by omega]
    obtain ⟨content, file, read, parsed, none, only⟩ := @growing_file (.ofText "/w/a.cs") _
      "b.cs".toList ['A'] ['.', 'C'] (grown (n + 1)) 'B' growingFiles_reads.1 (by decide +kernel)
      ⟨by decide, by decide⟩ ⟨by decide, by decide⟩ (grown_dotted (n + 1 + 1))
      (by decide +kernel) (by decide) (by decide +kernel)
    rw [path, next, names, nextNames]
    exact ⟨content, file, _, read, parsed, none, only, rfl, growingFiles_locates.1⟩

def growingKey (step : Nat) : VisitKey :=
  ((growingPath step).text, growingNames step)

theorem growingKey_injective : Function.Injective growingKey := fun _ _ same =>
  growingNames_injective (congrArg Prod.snd same)

theorem visit_growing (depth step : Nat) {t : Traversal} (none : t.declaredDirs = [])
    (fresh : ∀ later, step ≤ later → growingKey later ∉ t.visited) :
    ∃ t', visit growingFiles [] depth (growingPath step) (growingNames step) t =
        (.error .importsTooDeep, t') ∧ ∀ k < depth, growingKey (step + k) ∈ t'.visited := by
  induction depth generalizing step t with
  | zero => exact ⟨t, rfl, nofun⟩
  | succ depth ih =>
    obtain ⟨content, file, imported, read, parsed, noDirs, only, names, located⟩ :=
      growing_step step
    have key : file.key = growingKey step := scriptFile_key parsed
    have path := (scriptFile_ok parsed).1
    have dirs : (t.enter file).dirsFor file [] = ["/w"] := by
      have parent : (growingPath step).parent.text = "/w" := by
        rw [growingPath]
        split <;> decide +kernel
      rw [Traversal.dirsFor, path, parent, noDirs]
      simp [Traversal.enter, none, noDirs, distinct, keepFirst]
    have next := @ih (step + 1) (t.enter file)
      (by simp [Traversal.enter, none, noDirs, distinct, keepFirst]) fun later more visited => by
        rcases List.mem_cons.mp visited with same | visited
        · have := growingKey_injective (same.trans key)
          omega
        · exact fresh later (by omega) visited
    obtain ⟨t', failed, visited⟩ := next
    refine ⟨t', visit_only read (fresh step (Nat.le_refl _)) parsed only
      (by rw [dirs, path, located]) (names ▸ failed), fun k less => ?_⟩
    cases k with
    | zero =>
      have grows := @visit_grows growingFiles [] depth (growingPath (step + 1))
        (growingNames (step + 1)) (t.enter file)
      rw [failed] at grows
      exact grows.subset (key ▸ List.mem_cons_self)
    | succ k => exact (by omega : step + 1 + k = step + (k + 1)) ▸ visited k (by omega)

theorem followFrom_growing (depth : Nat) : ∃ root t',
    rootFile growingFiles (.ofText "/w/a.cs") = .ok root ∧
      followFrom growingFiles [] depth root = (.error .importsTooDeep, t') ∧
      ∀ k < depth, growingKey k ∈ t'.visited := by
  let root : ScriptFile := {
    path := .ofText "/w/a.cs"
    renamings := []
    generated := none
    directives := { imports := [⟨"b.cs", "/w/a.cs", [("A", "B.C")], 1⟩] }
    searchDirs := [] }
  have parsed : scriptFile growingFiles (.ofText "/w/a.cs")
      "//css_inc b.cs,rename_namespace(A,B.C)" [] = .ok root := by decide +kernel
  obtain ⟨t', failed, visited⟩ := @visit_growing depth 0 (({} : Traversal).enter root) rfl
    fun later _ visited => by
      have same := congrArg Prod.snd (List.mem_singleton.mp visited)
      cases same
  refine ⟨root, t', ?_, ?_, fun k less => (Nat.zero_add k) ▸ visited k less⟩
  · rw [rootFile, growingFiles_reads.1, ok_bind, parsed]
  · have names : growingNames 0 = [("A", "B.C")] := by decide +kernel
    have path : growingPath 0 = .ofText "/w/b.cs" := rfl
    have dirs : (({} : Traversal).enter root).dirsFor root [] = ["/w"] := by decide +kernel
    have located : locate growingFiles ["/w"] root.path "b.cs" = .ok (.ofText "/w/b.cs") := by
      decide +kernel
    rw [names, path] at failed
    rw [followFrom, followImports_cons, dirs]
    simp only [located, failed]

theorem traversal_growing :
    ¬ (visitedKeys growingFiles [] (.ofText "/w/a.cs")).Finite ∧
      ∀ depth, within depth growingFiles [] (.ofText "/w/a.cs") = .error .importsTooDeep := by
  constructor
  · refine Set.infinite_of_injective_forall_mem growingKey_injective fun step => ?_
    obtain ⟨root, t', opened, followed, visited⟩ := followFrom_growing (step + 1)
    refine ⟨step + 1, ?_⟩
    rw [keysWithin, opened]
    dsimp only
    rw [followed]
    exact visited step (Nat.lt_succ_self step)
  · intro depth
    obtain ⟨root, t', opened, followed, _⟩ := followFrom_growing depth
    rw [within_eq, opened, ok_bind, followed]
    rfl

end ScriptDeps.ImportGraph
