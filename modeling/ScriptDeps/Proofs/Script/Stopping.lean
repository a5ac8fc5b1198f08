import ScriptDeps.Proofs.Script.Traversal

/-!
# Where traversals stop

A traversal that fails does so at one import. `ComesTo` tells which imports a traversal comes to, and
in which state, and `StopsWith` what it fails with there; the two together say exactly when it fails
and how.
-/

namespace ScriptDeps.Script

/-- Where a traversal stands when it is about to follow an import of a file. -/
structure Standing where
  /-- How many files may be inside one another from here. -/
  depth : Nat
  file : ScriptFile
  imported : Import
  reached : Traversal

/-- Where the import leads. -/
def Standing.target (s : Standing) (fs : FileSystem) (extraDirs : List String) :
    Except Failure Path :=
  locate fs (s.reached.dirsFor s.file extraDirs) s.file.path s.imported.name

/-- What following imports of a file comes to: each of them, once those before it have been
followed, and whatever a new file comes to that one of them leads to. -/
inductive ComesTo (fs : FileSystem) (extraDirs : List String) :
    Nat → ScriptFile → List Import → Traversal → Standing → Prop
  | here {depth : Nat} {file : ScriptFile} {imported : Import} {rest : List Import}
      {t : Traversal} :
      ComesTo fs extraDirs depth file (imported :: rest) t ⟨depth, file, imported, t⟩
  | inside {depth : Nat} {file child : ScriptFile} {imported : Import} {rest : List Import}
      {t : Traversal} {path : Path} {content : String} {s : Standing}
      (located : locate fs (t.dirsFor file extraDirs) file.path imported.name = .ok path)
      (read : readScript fs path = .ok content)
      (new : (path.text, imported.renamings) ∉ t.visited)
      (parsed : scriptFile fs path content imported.renamings = .ok child)
      (deeper : ComesTo fs extraDirs depth child child.directives.imports (t.enter child) s) :
      ComesTo fs extraDirs (depth + 1) file (imported :: rest) t s
  | after {depth : Nat} {file : ScriptFile} {imported : Import} {rest : List Import}
      {t t' : Traversal} {path : Path} {s : Standing}
      (located : locate fs (t.dirsFor file extraDirs) file.path imported.name = .ok path)
      (visited : visit fs extraDirs depth path imported.renamings t = (.ok (), t'))
      (later : ComesTo fs extraDirs depth file rest t' s) :
      ComesTo fs extraDirs depth file (imported :: rest) t s

/-- What a traversal fails with at an import, before any import of the file that it leads to. -/
inductive StopsWith (fs : FileSystem) (extraDirs : List String) (s : Standing) : Failure → Prop
  | lost {failure : Failure} (missed : s.target fs extraDirs = .error failure) :
      StopsWith fs extraDirs s failure
  | tooDeep {path : Path} (located : s.target fs extraDirs = .ok path) (spent : s.depth = 0) :
      StopsWith fs extraDirs s .importsTooDeep
  | unread {path : Path} {failure : Failure} (located : s.target fs extraDirs = .ok path)
      (room : s.depth ≠ 0) (refused : readScript fs path = .error failure) :
      StopsWith fs extraDirs s failure
  | unparsed {path : Path} {content : String} {failure : Failure}
      (located : s.target fs extraDirs = .ok path) (room : s.depth ≠ 0)
      (read : readScript fs path = .ok content)
      (new : (path.text, s.imported.renamings) ∉ s.reached.visited)
      (refused : scriptFile fs path content s.imported.renamings = .error failure) :
      StopsWith fs extraDirs s failure

variable {fs : FileSystem} {extraDirs : List String}

/-! ### One import -/

theorem followImports_cons_error {visit : Path → List Renaming → Following Unit}
    {file : ScriptFile} {imported : Import} {rest : List Import} {t : Traversal}
    {failure : Failure} :
    (followImports fs extraDirs visit file (imported :: rest) t).1 = .error failure ↔
      locate fs (t.dirsFor file extraDirs) file.path imported.name = .error failure ∨
        ∃ path, locate fs (t.dirsFor file extraDirs) file.path imported.name = .ok path ∧
          ((visit path imported.renamings t).1 = .error failure ∨
            (visit path imported.renamings t).1 = .ok () ∧
              (followImports fs extraDirs visit file rest (visit path imported.renamings t).2).1 =
                .error failure) := by
  rw [followImports_cons]
  cases locate fs (t.dirsFor file extraDirs) file.path imported.name with
  | error other => simp
  | ok path =>
    simp only [reduceCtorEq, Except.ok.injEq, exists_eq_left', false_or]
    generalize visit path imported.renamings t = outcome
    obtain ⟨_ | _, t'⟩ := outcome <;> simp

theorem visit_succ_error {depth : Nat} {path : Path} {renamings : List Renaming} {t : Traversal}
    {failure : Failure} :
    (visit fs extraDirs (depth + 1) path renamings t).1 = .error failure ↔
      readScript fs path = .error failure ∨ ∃ content, readScript fs path = .ok content ∧
        (path.text, renamings) ∉ t.visited ∧
          (scriptFile fs path content renamings = .error failure ∨
            ∃ file, scriptFile fs path content renamings = .ok file ∧
              (followImports fs extraDirs (visit fs extraDirs depth) file file.directives.imports
                (t.enter file)).1 = .error failure) := by
  rw [visit_succ]
  cases readScript fs path with
  | error other => simp
  | ok content =>
    simp only [reduceCtorEq, Except.ok.injEq, exists_eq_left', false_or]
    by_cases seen : (path.text, renamings) ∈ t.visited
    · simp [seen]
    rw [if_neg seen]
    cases scriptFile fs path content renamings with
    | error other => simp [seen]
    | ok file =>
      simp only [reduceCtorEq, Except.ok.injEq, exists_eq_left', false_or]
      generalize followImports fs extraDirs (visit fs extraDirs depth) file
        file.directives.imports (t.enter file) = outcome
      obtain ⟨_ | _, t'⟩ := outcome <;> simp [seen]

/-! ### All imports -/

theorem comesTo_of_error {depth : Nat} {file : ScriptFile} {imports : List Import} {t : Traversal}
    {failure : Failure}
    (failed : (followImports fs extraDirs (visit fs extraDirs depth) file imports t).1 =
      .error failure) :
    ∃ s, ComesTo fs extraDirs depth file imports t s ∧ StopsWith fs extraDirs s failure := by
  -- the depth bounds the files inside one another, the list the imports of one of them
  induction depth generalizing file imports t with
  | zero =>
    induction imports generalizing t with
    | nil => cases failed
    | cons imported rest ihRest =>
      obtain missed | ⟨path, located, spent | ⟨visited, later⟩⟩ :=
        followImports_cons_error.mp failed
      · exact ⟨_, .here, .lost missed⟩
      · obtain rfl := Except.error.inj spent
        exact ⟨_, .here, .tooDeep located rfl⟩
      · cases visited
  | succ depth ihDepth =>
    induction imports generalizing t with
    | nil => cases failed
    | cons imported rest ihRest =>
      have room : depth + 1 ≠ 0 := Nat.succ_ne_zero depth
      obtain missed | ⟨path, located, entered | ⟨visited, later⟩⟩ :=
        followImports_cons_error.mp failed
      · exact ⟨_, .here, .lost missed⟩
      · obtain refused | ⟨content, read, new, refused | ⟨child, parsed, deeper⟩⟩ :=
          visit_succ_error.mp entered
        · exact ⟨_, .here, .unread located room refused⟩
        · exact ⟨_, .here, .unparsed located room read new refused⟩
        · obtain ⟨s, comes, stops⟩ := ihDepth deeper
          exact ⟨s, .inside located read new parsed comes, stops⟩
      · obtain ⟨s, comes, stops⟩ := ihRest later
        exact ⟨s, .after located (Prod.ext visited rfl) comes, stops⟩

theorem followImports_error_here {depth : Nat} {file : ScriptFile} {imported : Import}
    {rest : List Import} {t : Traversal} {failure : Failure}
    (stops : StopsWith fs extraDirs ⟨depth, file, imported, t⟩ failure) :
    (followImports fs extraDirs (visit fs extraDirs depth) file (imported :: rest) t).1 =
      .error failure := by
  refine followImports_cons_error.mpr ?_
  cases stops with
  | lost missed => exact Or.inl missed
  | tooDeep located spent =>
    obtain rfl : depth = 0 := spent
    exact Or.inr ⟨_, located, Or.inl rfl⟩
  | unread located room refused =>
    obtain ⟨_, rfl⟩ := Nat.exists_eq_succ_of_ne_zero room
    exact Or.inr ⟨_, located, Or.inl (visit_succ_error.mpr (Or.inl refused))⟩
  | unparsed located room read new refused =>
    obtain ⟨_, rfl⟩ := Nat.exists_eq_succ_of_ne_zero room
    refine Or.inr ⟨_, located, Or.inl (visit_succ_error.mpr (Or.inr ?_))⟩
    exact ⟨_, read, new, Or.inl refused⟩

/-- A traversal fails exactly with what it stops with at an import that it comes to. -/
theorem followImports_error_iff {depth : Nat} {file : ScriptFile} {imports : List Import}
    {t : Traversal} {failure : Failure} :
    (followImports fs extraDirs (visit fs extraDirs depth) file imports t).1 = .error failure ↔
      ∃ s, ComesTo fs extraDirs depth file imports t s ∧ StopsWith fs extraDirs s failure := by
  refine ⟨comesTo_of_error, ?_⟩
  rintro ⟨s, comes, stops⟩
  induction comes with
  | here => exact followImports_error_here stops
  | inside located read new parsed _ ih =>
    have entered := visit_succ_error.mpr (Or.inr ⟨_, read, new, Or.inr ⟨_, parsed, ih stops⟩⟩)
    exact followImports_cons_error.mpr (Or.inr ⟨_, located, Or.inl entered⟩)
  | after located visited _ ih =>
    refine followImports_cons_error.mpr (Or.inr ⟨_, located, Or.inr ?_⟩)
    rw [visited]
    exact ⟨rfl, ih stops⟩

/-! ### What holds of the imports come to -/

/-- Whatever an import is told by, if scripts declare no others. -/
theorem ComesTo.imported (declared : Import → Prop)
    (parses : ∀ {path content renamings file}, scriptFile fs path content renamings = .ok file →
      ∀ imported ∈ file.directives.imports, declared imported)
    {depth : Nat} {file : ScriptFile} {imports : List Import} {t : Traversal} {s : Standing}
    (comes : ComesTo fs extraDirs depth file imports t s)
    (own : ∀ imported ∈ imports, declared imported) : declared s.imported := by
  induction comes with
  | here => exact own _ List.mem_cons_self
  | inside located read new parsed _ ih => exact ih (parses parsed)
  | after located visited _ ih =>
    exact ih fun imported member => own imported (List.mem_cons_of_mem _ member)

end ScriptDeps.Script
