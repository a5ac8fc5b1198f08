import ScriptDeps.Proofs.FileSystem.Faults
import ScriptDeps.Proofs.Script.Traversal

/-!
# Depth

Only the limit on the files inside one another makes a traversal give up: nothing else that it does
fails for it. A run that visits fewer files than its limit never meets it, so a higher limit makes
no difference.
-/

namespace ScriptDeps

/-- The result is not that imports are nested too deeply. -/
def Depthless {α : Type} (result : Except Failure α) : Prop :=
  result ≠ .error .importsTooDeep

section Results

variable {α β : Type}

theorem depthless_ok (a : α) : Depthless (.ok a) := nofun

theorem depthless_error {failure : Failure} (other : failure ≠ .importsTooDeep) :
    Depthless (.error failure : Except Failure α) :=
  fun same => other (Except.error.inj same)

theorem Depthless.other {failure : Failure} (h : Depthless (.error failure : Except Failure α)) :
    failure ≠ .importsTooDeep :=
  fun same => h (congrArg Except.error same)

theorem depthless_iff {x : Except Failure α} :
    Depthless x ↔ FailsIn (· ≠ .importsTooDeep) x := by
  constructor
  · rintro depthless failure failed rfl
    exact depthless failed
  · exact fun fails tooDeep => fails _ tooDeep rfl

theorem Depthless.bind {x : Except Failure α} {f : α → Except Failure β} (first : Depthless x)
    (next : ∀ a, Depthless (f a)) : Depthless (x >>= f) :=
  depthless_iff.mpr ((depthless_iff.mp first).bind fun a => depthless_iff.mp (next a))

theorem Depthless.map {x : Except Failure α} (h : Depthless x) (f : α → β) :
    Depthless (do return f (← x)) :=
  h.bind fun _ => depthless_ok _

theorem depthless_mapM {f : α → Except Failure β} (each : ∀ a, Depthless (f a)) (list : List α) :
    Depthless (list.mapM f) :=
  depthless_iff.mpr (failsIn_mapM (fun a => depthless_iff.mp (each a)) list)

theorem depthless_foldlM {f : β → α → Except Failure β} (each : ∀ b a, Depthless (f b a))
    (list : List α) (b : β) : Depthless (list.foldlM f b) :=
  depthless_iff.mpr (failsIn_foldlM (fun b a => depthless_iff.mp (each b a)) list b)

theorem Depthless.of_files {x : Except Failure α} (fails : FailsIn Failure.OfFiles x) :
    Depthless x :=
  depthless_iff.mpr (fails.mono fun _ among tooDeep => nomatch tooDeep ▸ among)

end Results

namespace Script

variable (fs : FileSystem)

theorem readScript_depthless (path : Path) : Depthless (readScript fs path) := by
  have bytes := Depthless.of_files (fs.readUnmarked_fails path.text)
  rw [readScript]
  split
  · exact depthless_ok _
  · exact depthless_error (by simp)
  · exact depthless_error (by simp)
  · rename_i failure _ _ failed
    rw [failed] at bytes
    exact depthless_error bytes.other

theorem locate_depthless (dirs : List String) (importer : Path) (name : String) :
    Depthless (locate fs dirs importer name) := by
  have names : Depthless (namesMeant (.ofText name)) := by
    rw [namesMeant]
    split
    · exact depthless_ok _
    · split
      · exact depthless_ok _
      · exact depthless_error (by simp)
  have probes : Depthless (probesFor dirs (.ofText name)) := by
    refine names.bind fun found => ?_
    split
    · exact depthless_ok _
    · exact depthless_ok _
  refine probes.bind fun tried => (Depthless.of_files (fs.firstFile?_fails tried)).bind fun found => ?_
  cases found with
  | some path => exact .of_files (fs.resolvePath_fails path)
  | none => exact depthless_error (by simp)

/-! ### Renamings -/

theorem piece_depthless (unit : Replacement.Unit) (rest : List Replacement.Unit) :
    Depthless (Replacement.piece unit rest) := by
  fun_cases Replacement.piece unit rest <;> simp_all [Depthless]

theorem ofUnits_depthless (skipped : Nat) (units : List Replacement.Unit) :
    Depthless (Replacement.ofUnits skipped units) := by
  induction units generalizing skipped with
  | nil => exact depthless_ok []
  | cons unit rest ih =>
    cases skipped with
    | zero => exact (piece_depthless unit rest).bind fun _ => (ih _).map _
    | succ n => exact ih n

theorem generate_depthless (content : String) (renamings : List Renaming) :
    Depthless (generate content renamings) := by
  have one : ∀ text names, Depthless (rename text names) := fun text names =>
    (ofUnits_depthless 0 (Replacement.units names.2.toList)).map _
  rw [generate]
  split
  · exact depthless_ok none
  · exact (depthless_foldlM one renamings content).map _

theorem scriptFile_depthless (path : Path) (content : String) (renamings : List Renaming) :
    Depthless (scriptFile fs path content renamings) := by
  refine (generate_depthless content renamings).bind fun generated => ?_
  exact (depthless_mapM (fun dir => (Depthless.of_files (fs.resolvePath_fails _)).map _) _).map _

/-! ### Runs that visit fewer files than their limit -/

variable {fs : FileSystem} {extraDirs : List String}

theorem visited_kept (visited : List VisitKey) :
    KeptByVisits fs fun t => visited <:+ t.visited where
  enter earlier _ _ _ := earlier.trans (List.suffix_cons _ _)
  finish earlier := earlier

theorem visit_grows (depth : Nat) (path : Path) (renamings : List Renaming) (t : Traversal) :
    t.visited <:+ (visit fs extraDirs depth path renamings t).2.visited :=
  visit_keeps (visited_kept _) depth path renamings t (List.suffix_refl _)

theorem followImports_grows (depth : Nat) (file : ScriptFile) (imports : List Import)
    (t : Traversal) : t.visited <:+
      (followImports fs extraDirs (visit fs extraDirs depth) file imports t).2.visited :=
  @followImports_keeps fs extraDirs (fun s => t.visited <:+ s.visited) _
    (visit_keeps (visited_kept _) depth) file imports t (List.suffix_refl _)

/-- A run that does not give up goes on in the same way with a higher limit. -/
def Settles (fs : FileSystem) (extraDirs : List String) (depth : Nat) (path : Path)
    (renamings : List Renaming) (t : Traversal) : Prop :=
  Depthless (visit fs extraDirs depth path renamings t).1 ∧
    visit fs extraDirs (depth + 1) path renamings t = visit fs extraDirs depth path renamings t

theorem followImports_settles {depth bound : Nat} {file : ScriptFile} {imports : List Import}
    {t : Traversal}
    (below : ∀ path renamings t₁, t.visited <:+ t₁.visited →
      (visit fs extraDirs depth path renamings t₁).2.visited.length < bound →
      Settles fs extraDirs depth path renamings t₁)
    (short : (followImports fs extraDirs (visit fs extraDirs depth) file imports t).2.visited.length
      < bound) :
    Depthless (followImports fs extraDirs (visit fs extraDirs depth) file imports t).1 ∧
      followImports fs extraDirs (visit fs extraDirs (depth + 1)) file imports t =
        followImports fs extraDirs (visit fs extraDirs depth) file imports t := by
  induction imports generalizing t with
  | nil => exact ⟨depthless_ok (), rfl⟩
  | cons imported rest ih =>
    have located := locate_depthless fs (t.dirsFor file extraDirs) file.path imported.name
    rw [followImports_cons] at short ⊢
    rw [followImports_cons]
    cases found : locate fs (t.dirsFor file extraDirs) file.path imported.name with
    | error failure =>
      rw [found] at located
      exact ⟨depthless_error located.other, rfl⟩
    | ok path =>
      rw [found] at short
      have grows := @visit_grows fs extraDirs depth path imported.renamings t
      have first := below path imported.renamings t (List.suffix_refl _)
      dsimp only at short ⊢
      rcases ran : visit fs extraDirs depth path imported.renamings t with ⟨result, t₁⟩
      rw [Settles, ran] at first
      rw [ran] at grows short
      cases result with
      | error failure =>
        obtain ⟨depthless, same⟩ := first short
        rw [same]
        exact ⟨depthless_error depthless.other, rfl⟩
      | ok done =>
        have kept := (@followImports_grows fs extraDirs depth file rest t₁).length_le
        obtain ⟨_, same⟩ := first (Nat.lt_of_le_of_lt kept short)
        rw [same]
        exact ih (fun path renamings t₂ later => below path renamings t₂ (grows.trans later)) short

theorem visit_settles {depth : Nat} {path : Path} {renamings : List Renaming} {t : Traversal}
    (short : (visit fs extraDirs depth path renamings t).2.visited.length
      < t.visited.length + depth) :
    Settles fs extraDirs depth path renamings t := by
  induction depth generalizing path renamings t with
  | zero => exact absurd short (Nat.lt_irrefl _)
  | succ depth ih =>
    rw [Settles]
    rw [visit_succ] at short ⊢
    rw [visit_succ]
    have reads := readScript_depthless fs path
    cases read : readScript fs path with
    | error failure =>
      rw [read] at reads
      exact ⟨depthless_error reads.other, rfl⟩
    | ok content =>
      rw [read] at short
      dsimp only at short ⊢
      split
      · exact ⟨depthless_ok (), rfl⟩
      · rename_i new
        rw [if_neg new] at short
        have parses := scriptFile_depthless fs path content renamings
        cases parsed : scriptFile fs path content renamings with
        | error failure =>
          rw [parsed] at parses
          exact ⟨depthless_error parses.other, rfl⟩
        | ok file =>
          rw [parsed] at short
          dsimp only at short ⊢
          -- the file itself has been entered, so one less is left for what it imports
          have inside := @followImports_settles fs extraDirs depth (t.visited.length + (depth + 1))
            file file.directives.imports (t.enter file) fun path renamings t₁ later short =>
              ih (by have := later.length_le; simp only [visited_enter, List.length_cons] at this; omega)
          rcases ran : followImports fs extraDirs (visit fs extraDirs depth) file
            file.directives.imports (t.enter file) with ⟨result, t₁⟩
          rw [ran] at short inside
          cases result with
          | error failure =>
            obtain ⟨depthless, same⟩ := inside short
            rw [same]
            exact ⟨depthless_error depthless.other, rfl⟩
          | ok done =>
            obtain ⟨_, same⟩ := inside short
            rw [same]
            exact ⟨depthless_ok (), rfl⟩

end Script

end ScriptDeps
