import ScriptDeps.Console.Commands
import ScriptDeps.Proofs.FileSystem.Faults

/-!
# Surprises

A command that resolves a script has something to say about some failures only; any other one is a
surprise and escapes it. `Surprises` says that a result is one, and the lemmas here say of every way
to put computations together exactly when one comes of it.
-/

namespace ScriptDeps

/-- A command that resolves a script says something about the failure. -/
def Failure.isForeseen : Failure → Bool
  | importNotFound .. => true
  | unreadableScript .. => true
  | unknownConfiguredStrategy _ => true
  | download .. => true
  | worker _ => true
  | file .. => true
  | _ => false

theorem Console.resolveFailure?_isSome (audience : Audience) (script : String) (failure : Failure) :
    (resolveFailure? audience script failure).isSome = failure.isForeseen := by
  cases failure <;> rfl

theorem Failure.OfPath.foreseen {failure : Failure} (refused : OfPath failure) :
    failure.isForeseen = true := by
  cases refused
  rfl

/-! ### Results -/

section Results

variable {α β : Type}

/-- A failure has come of it that no command foresees. -/
def Surprises (result : Except Failure α) : Prop :=
  ∃ failure, result = .error failure ∧ failure.isForeseen = false

@[simp]
theorem surprises_ok (a : α) : ¬Surprises (.ok a) := nofun

@[simp]
theorem surprises_error {failure : Failure} :
    Surprises (.error failure : Except Failure α) ↔ failure.isForeseen = false := by
  simp [Surprises]

theorem not_surprises_iff {x : Except Failure α} :
    ¬Surprises x ↔ FailsIn (·.isForeseen = true) x := by
  simp [Surprises, FailsIn]

theorem FailsIn.not_surprises {kinds : Failure → Prop} {x : Except Failure α}
    (fails : FailsIn kinds x) (foreseen : ∀ failure, kinds failure → failure.isForeseen = true) :
    ¬Surprises x :=
  not_surprises_iff.mpr (fails.mono foreseen)

/-- What fails only in ways that no command foresees is a surprise unless it returns. -/
theorem surprises_iff_not_returns {x : Except Failure α}
    (fails : FailsIn (·.isForeseen = false) x) : Surprises x ↔ ¬∃ a, x = .ok a := by
  cases x with
  | ok a => simp
  | error failure => simp [fails failure rfl]

theorem surprises_bind {x : Except Failure α} {f : α → Except Failure β} :
    Surprises (x >>= f) ↔ Surprises x ∨ ∃ a, x = .ok a ∧ Surprises (f a) := by
  cases x <;> simp

theorem surprises_map {x : Except Failure α} {f : α → β} :
    Surprises (do return f (← x)) ↔ Surprises x := by
  rw [surprises_bind]
  exact or_iff_left fun ⟨_, _, surprised⟩ => surprises_ok _ surprised

theorem surprises_mapM {f : α → Except Failure β} {items : List α} :
    Surprises (items.mapM f) ↔ ∃ before item after, items = before ++ item :: after ∧
      (∀ other ∈ before, ∃ b, f other = .ok b) ∧ Surprises (f item) := by
  induction items with
  | nil => exact iff_of_false (surprises_ok _) (by simp)
  | cons first rest ih =>
    rw [List.mapM_cons, surprises_bind]
    simp only [surprises_map, ih]
    constructor
    · rintro (surprised | ⟨b, ran, before, item, after, rfl, returned, surprised⟩)
      · exact ⟨[], first, rest, rfl, nofun, surprised⟩
      · exact ⟨first :: before, item, after, rfl, List.forall_mem_cons.mpr ⟨⟨b, ran⟩, returned⟩,
          surprised⟩
    · rintro ⟨before, item, after, same, returned, surprised⟩
      cases before with
      | nil =>
        obtain ⟨rfl, rfl⟩ := List.cons_eq_cons.mp same
        exact Or.inl surprised
      | cons other before =>
        obtain ⟨rfl, rfl⟩ := List.cons_eq_cons.mp same
        obtain ⟨⟨b, ran⟩, returned⟩ := List.forall_mem_cons.mp returned
        exact Or.inr ⟨b, ran, before, item, after, rfl, returned, surprised⟩

/-- If nothing else can go wrong, an item that surprises is enough. -/
theorem surprises_mapM_of_fails {f : α → Except Failure β} {items : List α}
    (fails : ∀ item, FailsIn (·.isForeseen = false) (f item)) :
    Surprises (items.mapM f) ↔ ∃ item ∈ items, Surprises (f item) := by
  have each : ∀ item, Surprises (f item) ↔ ∃ failure, f item = .error failure := fun item =>
    ⟨fun ⟨failure, failed, _⟩ => ⟨failure, failed⟩, fun ⟨failure, failed⟩ =>
      ⟨failure, failed, fails item failure failed⟩⟩
  simp only [each, ← mapM_fails_iff]
  exact ⟨fun ⟨failure, failed, _⟩ => ⟨failure, failed⟩, fun ⟨failure, failed⟩ =>
    ⟨failure, failed, failsIn_mapM fails items failure failed⟩⟩

end Results

/-! ### Actions -/

section Actions

variable {σ α β : Type} {s : σ}

/-- If it is known what an action comes to, what follows it starts there. -/
theorem surprises_bind_of_run {x : ExceptT Failure (StateM σ) α}
    {f : α → ExceptT Failure (StateM σ) β} {result : Except Failure α} {s' : σ}
    (ran : x s = (result, s')) :
    Surprises ((x >>= f) s).1 ↔ Surprises result ∨ ∃ a, result = .ok a ∧ Surprises (f a s').1 := by
  have whole : ((x >>= f) s).1 = result >>= fun a => (f a s').1 := by
    rw [run_bind, ran]
    cases result <;> rfl
  rw [whole, surprises_bind]

theorem run_surprises_bind {x : ExceptT Failure (StateM σ) α}
    {f : α → ExceptT Failure (StateM σ) β} :
    Surprises ((x >>= f) s).1 ↔
      Surprises (x s).1 ∨ ∃ a s', x s = (.ok a, s') ∧ Surprises (f a s').1 := by
  rw [surprises_bind_of_run (rfl : x s = ((x s).1, (x s).2))]
  refine or_congr_right ⟨fun ⟨a, done, surprised⟩ => ⟨a, _, Prod.ext done rfl, surprised⟩, ?_⟩
  rintro ⟨a, s', ran, surprised⟩
  rw [ran]
  exact ⟨a, rfl, surprised⟩

theorem run_surprises_map {x : ExceptT Failure (StateM σ) α} {f : α → β} :
    Surprises ((do return f (← x)) s).1 ↔ Surprises (x s).1 := by
  rw [run_surprises_bind]
  exact or_iff_left fun ⟨_, _, _, surprised⟩ => surprises_ok _ surprised

theorem run_surprises_mapM {f : α → ExceptT Failure (StateM σ) β} {items : List α} :
    Surprises (items.mapM f s).1 ↔ ∃ before item after results s',
      items = before ++ item :: after ∧ before.mapM f s = (.ok results, s') ∧
        Surprises (f item s').1 := by
  induction items generalizing s with
  | nil => exact iff_of_false (surprises_ok _) (by simp)
  | cons first rest ih =>
    rw [List.mapM_cons, run_surprises_bind]
    simp only [run_surprises_map, ih]
    constructor
    · rintro (surprised | ⟨b, s₁, ran, before, item, after, others, s', rfl, later, surprised⟩)
      · exact ⟨[], first, rest, [], s, rfl, rfl, surprised⟩
      · refine ⟨first :: before, item, after, b :: others, s', rfl, ?_, surprised⟩
        rw [List.mapM_cons, run_bind, ran]
        dsimp only
        rw [run_bind, later]
        rfl
    · rintro ⟨before, item, after, results, s', same, ran, surprised⟩
      cases before with
      | nil =>
        obtain ⟨rfl, rfl⟩ := List.cons_eq_cons.mp same
        obtain ⟨-, rfl⟩ := Prod.mk.inj ran
        exact Or.inl surprised
      | cons other before =>
        obtain ⟨rfl, rfl⟩ := List.cons_eq_cons.mp same
        rw [List.mapM_cons] at ran
        obtain ⟨b, s₁, one, ran⟩ := run_ok ran
        obtain ⟨others, s₂, later, ran⟩ := run_ok ran
        obtain ⟨-, rfl⟩ := Prod.mk.inj ran
        exact Or.inr ⟨b, s₁, one, before, item, after, others, _, rfl, later, surprised⟩

theorem surprises_ofHost_bind {f : Host → Except Failure α} {next : α → Action β} {host : Host} :
    Surprises ((Action.ofHost f >>= next) host).1 ↔
      Surprises (f host) ∨ ∃ a, f host = .ok a ∧ Surprises (next a host).1 :=
  surprises_bind_of_run rfl

end Actions

end ScriptDeps
