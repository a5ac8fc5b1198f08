import ScriptDeps.Proofs.Running
import ScriptDeps.Script.ImportGraph

/-!
# Traversals

What a visit does to a traversal, one equation for each step, and what every run keeps: a property
that entering a file keeps, and finishing one, holds wherever a traversal stops.
-/

namespace ScriptDeps.Script

variable {fs : FileSystem} {extraDirs : List String}

@[simp]
theorem run_known {α : Type} (result : Except Failure α) (t : Traversal) :
    Following.ofExcept result t = (result, t) := rfl

@[simp]
theorem visited_enter (t : Traversal) (file : ScriptFile) :
    (t.enter file).visited = file.key :: t.visited := rfl

@[simp]
theorem finished_enter (t : Traversal) (file : ScriptFile) :
    (t.enter file).finished = t.finished := rfl

@[simp]
theorem visited_finish (t : Traversal) (file : ScriptFile) :
    (t.finish file).visited = t.visited := rfl

@[simp]
theorem finished_finish (t : Traversal) (file : ScriptFile) :
    (t.finish file).finished = t.finished ++ [file] := rfl

/-! ### Equations -/

theorem followImports_cons (visit : Path → List Renaming → Following Unit) (file : ScriptFile)
    (imported : Import) (rest : List Import) (t : Traversal) :
    followImports fs extraDirs visit file (imported :: rest) t =
      match locate fs (t.dirsFor file extraDirs) file.path imported.name with
      | .error failure => (.error failure, t)
      | .ok path =>
        match visit path imported.renamings t with
        | (.error failure, t') => (.error failure, t')
        | (.ok (), t') => followImports fs extraDirs visit file rest t' := by
  rw [followImports]
  simp only [run_bind, run_get, run_known]
  cases locate fs (t.dirsFor file extraDirs) file.path imported.name with
  | error failure => rfl
  | ok path =>
    dsimp only
    rcases visit path imported.renamings t with ⟨_ | _, t'⟩ <;> rfl

@[simp]
theorem visit_zero (path : Path) (renamings : List Renaming) (t : Traversal) :
    visit fs extraDirs 0 path renamings t = (.error .importsTooDeep, t) := rfl

theorem visit_succ (depth : Nat) (path : Path) (renamings : List Renaming) (t : Traversal) :
    visit fs extraDirs (depth + 1) path renamings t =
      match readScript fs path with
      | .error failure => (.error failure, t)
      | .ok content =>
        if (path.text, renamings) ∈ t.visited then (.ok (), t)
        else match scriptFile fs path content renamings with
          | .error failure => (.error failure, t)
          | .ok file =>
            match followImports fs extraDirs (visit fs extraDirs depth) file
                file.directives.imports (t.enter file) with
            | (.error failure, t') => (.error failure, t')
            | (.ok (), t') => (.ok (), t'.finish file) := by
  rw [visit]
  simp only [run_bind, run_get, run_known, List.contains_iff_mem]
  cases readScript fs path with
  | error failure => rfl
  | ok content =>
    dsimp only
    by_cases seen : (path.text, renamings) ∈ t.visited
    · simp only [seen, if_true, run_pure]
    · simp only [seen, if_false, run_bind, run_known]
      cases scriptFile fs path content renamings with
      | error failure => rfl
      | ok file =>
        simp only [run_modify]
        rcases followImports fs extraDirs (visit fs extraDirs depth) file
          file.directives.imports (t.enter file) with ⟨_ | _, t'⟩ <;> rfl

theorem visit_only {depth : Nat} {path target : Path} {content : String}
    {renamings : List Renaming} {file : ScriptFile} {imported : Import} {t t' : Traversal}
    {failure : Failure} (read : readScript fs path = .ok content)
    (new : (path.text, renamings) ∉ t.visited)
    (parsed : scriptFile fs path content renamings = .ok file)
    (only : file.directives.imports = [imported])
    (located : locate fs ((t.enter file).dirsFor file extraDirs) file.path imported.name = .ok target)
    (failed : visit fs extraDirs depth target imported.renamings (t.enter file) =
      (.error failure, t')) :
    visit fs extraDirs (depth + 1) path renamings t = (.error failure, t') := by
  rw [visit_succ, read]
  dsimp only
  rw [if_neg new, parsed]
  dsimp only
  rw [only, followImports_cons, located]
  dsimp only
  rw [failed]

/-! ### Files as imports see them -/

theorem scriptFile_ok {path : Path} {content : String} {renamings : List Renaming}
    {file : ScriptFile} (h : scriptFile fs path content renamings = .ok file) :
    file.path = path ∧ file.renamings = renamings ∧
      generate content renamings = .ok file.generated ∧
      file.directives = Directives.ofText (file.generated.getD content) path.text := by
  obtain ⟨generated, made, h⟩ := bind_ok h
  obtain ⟨searchDirs, _, h⟩ := bind_ok h
  rw [pure_ok h]
  exact ⟨rfl, rfl, made, rfl⟩

theorem scriptFile_key {path : Path} {content : String} {renamings : List Renaming}
    {file : ScriptFile} (h : scriptFile fs path content renamings = .ok file) :
    file.key = (path.text, renamings) := by
  obtain ⟨same, names, _⟩ := scriptFile_ok h
  rw [ScriptFile.key, same, names]

/-! ### What a run keeps -/

/-- What entering a file that was not visited keeps, and finishing one. -/
structure KeptByVisits (fs : FileSystem) (inv : Traversal → Prop) : Prop where
  enter : ∀ {t path content renamings file}, inv t → readScript fs path = .ok content →
    (path.text, renamings) ∉ t.visited → scriptFile fs path content renamings = .ok file →
    inv (t.enter file)
  finish : ∀ {t file}, inv t → inv (t.finish file)

theorem followImports_keeps {inv : Traversal → Prop}
    {visit : Path → List Renaming → Following Unit}
    (keeps : ∀ path renamings t, inv t → inv (visit path renamings t).2) (file : ScriptFile)
    (imports : List Import) (t : Traversal) (holds : inv t) :
    inv (followImports fs extraDirs visit file imports t).2 := by
  induction imports generalizing t with
  | nil => exact holds
  | cons imported rest ih =>
    rw [followImports_cons]
    cases locate fs (t.dirsFor file extraDirs) file.path imported.name with
    | error failure => exact holds
    | ok path =>
      have next := keeps path imported.renamings t holds
      dsimp only
      generalize visit path imported.renamings t = outcome at next ⊢
      rcases outcome with ⟨_ | _, t'⟩
      · exact next
      · exact ih t' next

theorem visit_keeps {inv : Traversal → Prop} (kept : KeptByVisits fs inv) (depth : Nat)
    (path : Path) (renamings : List Renaming) (t : Traversal) (holds : inv t) :
    inv (visit fs extraDirs depth path renamings t).2 := by
  induction depth generalizing path renamings t with
  | zero => exact holds
  | succ depth ih =>
    rw [visit_succ]
    cases read : readScript fs path with
    | error failure => exact holds
    | ok content =>
      dsimp only
      split
      · exact holds
      · rename_i new
        cases parsed : scriptFile fs path content renamings with
        | error failure => exact holds
        | ok file =>
          have inside := @followImports_keeps fs extraDirs _ _ ih file
            file.directives.imports (t.enter file) (kept.enter holds read new parsed)
          dsimp only
          generalize followImports fs extraDirs (visit fs extraDirs depth) file
            file.directives.imports (t.enter file) = outcome at inside ⊢
          rcases outcome with ⟨_ | _, t'⟩
          · exact inside
          · exact kept.finish inside

end ScriptDeps.Script
