import ScriptDeps.Failure
import ScriptDeps.Proofs.Running

/-!
# Ways to fail

`FailsIn` says what a failure can be, if there is one, and `RunsFailIn` says it of an action in any
state. `CleanOn` says that failures of some kinds come before anything has been done.
-/

namespace ScriptDeps

section Results

variable {ε α β : Type} {kinds : ε → Prop}

/-- There is a result, or a failure of some kinds. -/
def FailsIn (kinds : ε → Prop) (result : Except ε α) : Prop :=
  ∀ failure, result = .error failure → kinds failure

theorem failsIn_ok (a : α) : FailsIn kinds (.ok a) := nofun

theorem failsIn_error {failure : ε} (among : kinds failure) :
    FailsIn kinds (.error failure : Except ε α) :=
  fun _ same => Except.error.inj same ▸ among

theorem FailsIn.mono {more : ε → Prop} {x : Except ε α} (fails : FailsIn kinds x)
    (wider : ∀ failure, kinds failure → more failure) : FailsIn more x :=
  fun failure failed => wider failure (fails failure failed)

theorem FailsIn.bind {x : Except ε α} {f : α → Except ε β} (first : FailsIn kinds x)
    (next : ∀ a, FailsIn kinds (f a)) : FailsIn kinds (x >>= f) := by
  cases x with
  | ok a => exact next a
  | error failure => exact failsIn_error (first failure rfl)

theorem FailsIn.map {x : Except ε α} (fails : FailsIn kinds x) (f : α → β) :
    FailsIn kinds (do return f (← x)) :=
  fails.bind fun _ => failsIn_ok _

theorem failsIn_mapM {f : α → Except ε β} (each : ∀ a, FailsIn kinds (f a)) (items : List α) :
    FailsIn kinds (items.mapM f) := by
  induction items with
  | nil => exact failsIn_ok []
  | cons item rest ih =>
    rw [List.mapM_cons]
    exact (each item).bind fun _ => ih.map _

theorem failsIn_foldlM {f : β → α → Except ε β} (each : ∀ b a, FailsIn kinds (f b a))
    (items : List α) (b : β) : FailsIn kinds (items.foldlM f b) := by
  induction items generalizing b with
  | nil => exact failsIn_ok b
  | cons item rest ih =>
    rw [List.foldlM_cons]
    exact (each b item).bind fun _ => ih _

theorem failsIn_filterM {p : α → Except ε Bool} (each : ∀ a, FailsIn kinds (p a))
    (items : List α) : FailsIn kinds (items.filterM p) := by
  have from_ : ∀ kept, FailsIn kinds (items.filterAuxM p kept) := by
    induction items with
    | nil => exact fun kept => failsIn_ok kept
    | cons item rest ih => exact fun kept => (each item).bind fun _ => ih _
  exact (from_ []).map _

end Results

section Actions

variable {ε σ α β : Type} {kinds : ε → Prop}

def RunsFailIn (kinds : ε → Prop) (x : ExceptT ε (StateM σ) α) : Prop :=
  ∀ s, FailsIn kinds (x s).1

theorem runsFailIn_of_ok {x : ExceptT ε (StateM σ) α} (returns : ∀ s, ∃ a, (x s).1 = .ok a) :
    RunsFailIn kinds x := by
  intro s
  obtain ⟨a, returned⟩ := returns s
  rw [returned]
  exact failsIn_ok a

theorem runsFailIn_pure (a : α) : RunsFailIn kinds (pure a : ExceptT ε (StateM σ) α) :=
  runsFailIn_of_ok fun _ => ⟨a, rfl⟩

theorem runsFailIn_throw {failure : ε} (among : kinds failure) :
    RunsFailIn kinds (throw failure : ExceptT ε (StateM σ) α) :=
  fun _ => failsIn_error among

theorem RunsFailIn.bind {x : ExceptT ε (StateM σ) α} {f : α → ExceptT ε (StateM σ) β}
    (first : RunsFailIn kinds x) (next : ∀ a, RunsFailIn kinds (f a)) : RunsFailIn kinds (x >>= f) := by
  intro s
  have before := first s
  rw [run_bind]
  generalize x s = outcome at before ⊢
  obtain ⟨failure | a, s'⟩ := outcome
  · exact failsIn_error (before failure rfl)
  · exact next a s'

/-- Only what the handler is given can come of it. -/
theorem RunsFailIn.tryCatch {x : ExceptT ε (StateM σ) α} {handle : ε → ExceptT ε (StateM σ) α}
    (first : RunsFailIn kinds x) (next : ∀ failure, kinds failure → RunsFailIn kinds (handle failure)) :
    RunsFailIn kinds (tryCatch x handle) := by
  intro s
  have before := first s
  rw [run_tryCatch]
  generalize x s = outcome at before ⊢
  obtain ⟨failure | a, s'⟩ := outcome
  · exact next failure (before failure rfl) s'
  · exact failsIn_ok a

theorem runsFailIn_mapM {f : α → ExceptT ε (StateM σ) β} (each : ∀ a, RunsFailIn kinds (f a))
    (items : List α) : RunsFailIn kinds (items.mapM f) := by
  induction items with
  | nil => exact runsFailIn_pure []
  | cons item rest ih =>
    rw [List.mapM_cons]
    exact (each item).bind fun _ => ih.bind fun _ => runsFailIn_pure _

/-- A run that fails in one of some ways has done nothing before. -/
def CleanOn (kinds : ε → Prop) (x : ExceptT ε (StateM σ) α) : Prop :=
  ∀ s failure, (x s).1 = .error failure → kinds failure → (x s).2 = s

/-- What does nothing may come before what is clean. -/
theorem CleanOn.after {x : ExceptT ε (StateM σ) α} {f : α → ExceptT ε (StateM σ) β}
    (idle : ∀ s, (x s).2 = s) (next : ∀ a, CleanOn kinds (f a)) : CleanOn kinds (x >>= f) := by
  intro s failure failed among
  have same := idle s
  rw [run_bind] at failed ⊢
  generalize x s = outcome at same failed ⊢
  obtain ⟨_ | a, s'⟩ := outcome
  · exact same
  · obtain rfl : s' = s := same
    exact next a s' failure failed among

/-- What never fails in these ways may come after what is clean. -/
theorem CleanOn.before {x : ExceptT ε (StateM σ) α} {f : α → ExceptT ε (StateM σ) β}
    (first : CleanOn kinds x) (next : ∀ a, RunsFailIn (fun failure => ¬kinds failure) (f a)) :
    CleanOn kinds (x >>= f) := by
  intro s failure failed among
  have clean := first s
  rw [run_bind] at failed ⊢
  generalize x s = outcome at clean failed ⊢
  obtain ⟨other | a, s'⟩ := outcome
  · have same : other = failure := Except.error.inj failed
    exact clean failure (congrArg Except.error same) among
  · exact absurd among (next a s' failure failed)

end Actions

end ScriptDeps
