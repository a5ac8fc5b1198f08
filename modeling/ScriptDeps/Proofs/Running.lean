import Mathlib.Order.Defs.Unbundled
import ScriptDeps.Host

/-!
# Running actions

Actions may fail and keep their state when they do. `run_bind` says what one after another does to
a state; `run_ok` and `bind_ok` take a run that succeeded apart. `Moves` says what becomes of the
state whether a run succeeds or not.
-/

namespace ScriptDeps

/-! ### Results -/

section Results

variable {ε α β : Type}

@[simp]
theorem ok_bind (a : α) (f : α → Except ε β) : (Except.ok a >>= f) = f a := rfl

@[simp]
theorem error_bind (e : ε) (f : α → Except ε β) : (Except.error e >>= f) = .error e := rfl

theorem bind_ok {x : Except ε α} {f : α → Except ε β} {b : β} (h : (x >>= f) = .ok b) :
    ∃ a, x = .ok a ∧ f a = .ok b := by
  cases x with
  | ok a => exact ⟨a, rfl, h⟩
  | error e => cases h

theorem ok_of_isSome {x : Except ε α} (h : x.toOption.isSome = true) : ∃ a, x = .ok a := by
  cases x with
  | ok a => exact ⟨a, rfl⟩
  | error e => cases h

theorem ok_of_any {x : Except ε α} {p : α → Bool} (h : x.toOption.any p = true) :
    ∃ a, x = .ok a ∧ p a = true := by
  cases x with
  | ok a => exact ⟨a, rfl, h⟩
  | error e => cases h

theorem pure_ok {a b : α} (h : (pure a : Except ε α) = .ok b) : b = a :=
  (Except.ok.inj h).symm

theorem bind_fails {x : Except ε α} (fails : ∃ e, x = .error e) (f : α → Except ε β) :
    ∃ e, (x >>= f) = .error e :=
  fails.imp fun e failed => by rw [failed, error_bind]

theorem bind_error_iff {x : Except ε α} {f : α → Except ε β} {e : ε} :
    (x >>= f) = .error e ↔ x = .error e ∨ ∃ a, x = .ok a ∧ f a = .error e := by
  cases x with
  | ok a => simp
  | error other => simp

theorem mapM_map_eq {γ : Type} {f : α → Except ε β} {g : α → γ} {h : β → γ}
    (each : ∀ a b, f a = .ok b → h b = g a) {items : List α} {results : List β}
    (ran : items.mapM f = .ok results) : results.map h = items.map g := by
  induction items generalizing results with
  | nil => rw [pure_ok ran]; rfl
  | cons item rest ih =>
    rw [List.mapM_cons] at ran
    obtain ⟨first, one, ran⟩ := bind_ok ran
    obtain ⟨others, later, ran⟩ := bind_ok ran
    rw [pure_ok ran, List.map_cons, List.map_cons, each item first one, ih later]

theorem mapM_eq_map {f : α → Except ε β} {g : α → β}
    (each : ∀ a b, f a = .ok b → b = g a) {items : List α} {results : List β}
    (ran : items.mapM f = .ok results) : results = items.map g :=
  results.map_id.symm.trans (mapM_map_eq each ran)

theorem of_mem_mapM {f : α → Except ε β} {items : List α} {results : List β}
    (ran : items.mapM f = .ok results) {b : β} (member : b ∈ results) :
    ∃ a ∈ items, f a = .ok b := by
  induction items generalizing results with
  | nil => exact absurd (pure_ok ran ▸ member) List.not_mem_nil
  | cons item rest ih =>
    rw [List.mapM_cons] at ran
    obtain ⟨first, one, ran⟩ := bind_ok ran
    obtain ⟨others, later, ran⟩ := bind_ok ran
    obtain rfl | after := List.mem_cons.mp (pure_ok ran ▸ member)
    · exact ⟨item, List.mem_cons_self, one⟩
    · obtain ⟨a, among, made⟩ := ih later after
      exact ⟨a, List.mem_cons_of_mem item among, made⟩

theorem mem_mapM {f : α → Except ε β} {items : List α} {results : List β}
    (ran : items.mapM f = .ok results) {b : β} : b ∈ results ↔ ∃ a ∈ items, f a = .ok b := by
  refine ⟨of_mem_mapM ran, ?_⟩
  rintro ⟨a, among, made⟩
  induction items generalizing results with
  | nil => cases among
  | cons item rest ih =>
    rw [List.mapM_cons] at ran
    obtain ⟨first, one, ran⟩ := bind_ok ran
    obtain ⟨others, later, ran⟩ := bind_ok ran
    rw [pure_ok ran]
    obtain rfl | after := List.mem_cons.mp among
    · cases one.symm.trans made
      exact List.mem_cons_self
    · exact List.mem_cons_of_mem first (ih later after)

theorem of_mem_filterM {p : α → Except ε Bool} {items kept : List α}
    (ran : items.filterM p = .ok kept) {a : α} (member : a ∈ kept) : p a = .ok true := by
  have from_ : ∀ {items before kept : List α}, (∀ a ∈ before, p a = .ok true) →
      items.filterAuxM p before = .ok kept → ∀ a ∈ kept, p a = .ok true := by
    intro items
    induction items with
    | nil =>
      intro before kept passed ran
      exact pure_ok ran ▸ passed
    | cons item rest ih =>
      intro before kept passed ran
      obtain ⟨passes, asked, ran⟩ := bind_ok ran
      refine ih (fun a among => ?_) ran
      cases passes with
      | false => exact passed a among
      | true => exact (List.mem_cons.mp among).elim (fun same => same ▸ asked) (passed a)
  obtain ⟨backwards, ran, turned⟩ := bind_ok ran
  exact from_ (fun _ none => absurd none List.not_mem_nil) ran a
    (List.mem_reverse.mp (pure_ok turned ▸ member))

theorem mapM_fails {f : α → Except ε β} {items : List α} {a : α} (member : a ∈ items)
    (fails : ∃ e, f a = .error e) : ∃ e, items.mapM f = .error e := by
  induction items with
  | nil => exact absurd member List.not_mem_nil
  | cons item rest ih =>
    rw [List.mapM_cons]
    obtain rfl | later := List.mem_cons.mp member
    · exact bind_fails fails _
    · cases f item with
      | error e => exact ⟨e, rfl⟩
      | ok b => exact bind_fails (ih later) _

theorem mapM_returns {f : α → Except ε β} {items : List α} (each : ∀ a ∈ items, ∃ b, f a = .ok b) :
    ∃ results, items.mapM f = .ok results := by
  induction items with
  | nil => exact ⟨[], rfl⟩
  | cons item rest ih =>
    obtain ⟨first, one⟩ := each item List.mem_cons_self
    obtain ⟨others, later⟩ := ih fun a member => each a (List.mem_cons_of_mem item member)
    exact ⟨first :: others, by rw [List.mapM_cons, one, ok_bind, later]; rfl⟩

theorem mapM_split {f : α → Except ε β} {items : List α} {before after : List β} {b : β}
    (ran : items.mapM f = .ok (before ++ b :: after)) :
    ∃ earlier a later, items = earlier ++ a :: later ∧ earlier.mapM f = .ok before ∧ f a = .ok b ∧
      later.mapM f = .ok after := by
  induction before generalizing items with
  | nil =>
    cases items with
    | nil => cases pure_ok ran
    | cons a rest =>
      rw [List.mapM_cons] at ran
      obtain ⟨first, one, ran⟩ := bind_ok ran
      obtain ⟨others, later, ran⟩ := bind_ok ran
      obtain ⟨rfl, rfl⟩ := List.cons.inj (pure_ok ran)
      exact ⟨[], a, rest, rfl, rfl, one, later⟩
  | cons first before ih =>
    cases items with
    | nil => cases pure_ok ran
    | cons a rest =>
      rw [List.mapM_cons] at ran
      obtain ⟨_, one, ran⟩ := bind_ok ran
      obtain ⟨others, each, ran⟩ := bind_ok ran
      obtain ⟨rfl, rfl⟩ := List.cons.inj (pure_ok ran)
      obtain ⟨earlier, top, later, rfl, earlierRan, made, laterRan⟩ := ih each
      refine ⟨a :: earlier, top, later, rfl, ?_, made, laterRan⟩
      rw [List.mapM_cons, one, ok_bind, earlierRan]
      rfl

theorem mapM_congr {f g : α → Except ε β} {items : List α} (same : ∀ a ∈ items, f a = g a) :
    items.mapM f = items.mapM g := by
  induction items with
  | nil => rfl
  | cons item rest ih =>
    obtain ⟨first, others⟩ := List.forall_mem_cons.mp same
    rw [List.mapM_cons, List.mapM_cons, first, ih others]

theorem mapM_fails_iff {f : α → Except ε β} {items : List α} :
    (∃ e, items.mapM f = .error e) ↔ ∃ a ∈ items, ∃ e, f a = .error e := by
  constructor
  · rintro ⟨e, failed⟩
    induction items with
    | nil => cases failed
    | cons item rest ih =>
      rw [List.mapM_cons] at failed
      obtain first | ⟨b, _, failed⟩ := bind_error_iff.mp failed
      · exact ⟨item, List.mem_cons_self, e, first⟩
      obtain later | ⟨_, _, done⟩ := bind_error_iff.mp failed
      · obtain ⟨a, member, fails⟩ := ih later
        exact ⟨a, List.mem_cons_of_mem item member, fails⟩
      · cases done
  · rintro ⟨a, member, fails⟩
    exact mapM_fails member fails

theorem mapM_returns_iff {f : α → Except ε β} {items : List α} :
    (∃ results, items.mapM f = .ok results) ↔ ∀ a ∈ items, ∃ b, f a = .ok b := by
  refine ⟨fun ⟨results, ran⟩ a member => ?_, mapM_returns⟩
  cases one : f a with
  | ok b => exact ⟨b, rfl⟩
  | error e =>
    obtain ⟨other, failed⟩ := mapM_fails member ⟨e, one⟩
    cases ran.symm.trans failed

end Results

/-! ### Actions on a state -/

section Actions

variable {ε σ α β : Type}

theorem run_bind (x : ExceptT ε (StateM σ) α) (f : α → ExceptT ε (StateM σ) β) (s : σ) :
    (x >>= f) s = match x s with
      | (.ok a, s') => f a s'
      | (.error e, s') => (.error e, s') := by
  simp only [Bind.bind, ExceptT.bind, ExceptT.mk, StateT.bind]
  rcases x s with ⟨a | a, s'⟩ <;> rfl

@[simp]
theorem run_pure (a : α) (s : σ) : (pure a : ExceptT ε (StateM σ) α) s = (.ok a, s) := rfl

theorem run_result (result : Except ε α) (s : σ) :
    (ExceptT.mk (pure result) : ExceptT ε (StateM σ) α) s = (result, s) := rfl

@[simp]
theorem run_throw (e : ε) (s : σ) : (throw e : ExceptT ε (StateM σ) α) s = (.error e, s) := rfl

@[simp]
theorem run_get (s : σ) : (get : ExceptT ε (StateM σ) σ) s = (.ok s, s) := rfl

@[simp]
theorem run_modify (f : σ → σ) (s : σ) :
    (modify f : ExceptT ε (StateM σ) PUnit) s = (.ok ⟨⟩, f s) := rfl

theorem run_tryCatch (x : ExceptT ε (StateM σ) α) (handle : ε → ExceptT ε (StateM σ) α) (s : σ) :
    (tryCatch x handle) s = match x s with
      | (.ok a, s') => (.ok a, s')
      | (.error e, s') => handle e s' := by
  simp only [tryCatch, tryCatchThe, MonadExceptOf.tryCatch, ExceptT.tryCatch, ExceptT.mk,
    Bind.bind, StateT.bind]
  rcases x s with ⟨a | a, s'⟩ <;> rfl

theorem run_ok {x : ExceptT ε (StateM σ) α} {f : α → ExceptT ε (StateM σ) β} {s s' : σ} {b : β}
    (h : (x >>= f) s = (.ok b, s')) : ∃ a s₁, x s = (.ok a, s₁) ∧ f a s₁ = (.ok b, s') := by
  rw [run_bind] at h
  split at h
  · rename_i a s₁ ran
    exact ⟨a, s₁, ran, h⟩
  · cases h

theorem run_mapM_eq_map {f : α → ExceptT ε (StateM σ) β} {g : α → β}
    (each : ∀ a b s s', f a s = (.ok b, s') → b = g a) {items : List α} {results : List β} {s s' : σ}
    (ran : items.mapM f s = (.ok results, s')) : results = items.map g := by
  induction items generalizing results s with
  | nil => exact (Except.ok.inj (Prod.mk.inj ran).1).symm
  | cons item rest ih =>
    rw [List.mapM_cons] at ran
    obtain ⟨first, _, one, ran⟩ := run_ok ran
    obtain ⟨others, _, later, ran⟩ := run_ok ran
    obtain ⟨done, rfl⟩ := Prod.mk.inj ran
    obtain rfl := Except.ok.inj done
    rw [each item first _ _ one, ih later, List.map_cons]

theorem run_mapM_all {f : α → ExceptT ε (StateM σ) β} {good : β → Prop}
    {items : List α} (each : ∀ a ∈ items, ∀ b s s', f a s = (.ok b, s') → good b)
    {results : List β} {s s' : σ} (ran : items.mapM f s = (.ok results, s')) :
    ∀ b ∈ results, good b := by
  induction items generalizing results s with
  | nil =>
    obtain ⟨made, -⟩ := Prod.mk.inj ran
    rw [← Except.ok.inj made]
    exact nofun
  | cons item rest ih =>
    rw [List.mapM_cons] at ran
    obtain ⟨first, _, one, ran⟩ := run_ok ran
    obtain ⟨others, _, later, ran⟩ := run_ok ran
    obtain ⟨made, rfl⟩ := Prod.mk.inj ran
    rw [← Except.ok.inj made]
    have rest := ih (fun a member => each a (List.mem_cons_of_mem item member)) later
    exact List.forall_mem_cons.mpr ⟨each item List.mem_cons_self first _ _ one, rest⟩

/-! ### Runs that do not depend on the state -/

/-- From every state that satisfies an invariant, the run gives the result and keeps the
invariant. -/
def Yields (inv : σ → Prop) (x : ExceptT ε (StateM σ) α) (result : Except ε α) : Prop :=
  ∀ s, inv s → ∃ s', x s = (result, s') ∧ inv s'

theorem yields_pure {inv : σ → Prop} (a : α) :
    Yields inv (pure a : ExceptT ε (StateM σ) α) (.ok a) :=
  fun s holds => ⟨s, rfl, holds⟩

theorem Yields.bind {inv : σ → Prop} {x : ExceptT ε (StateM σ) α} {result : Except ε α}
    {f : α → ExceptT ε (StateM σ) β} {next : α → Except ε β} (first : Yields inv x result)
    (rest : ∀ a, Yields inv (f a) (next a)) : Yields inv (x >>= f) (result >>= next) := by
  intro s holds
  obtain ⟨s', ran, kept⟩ := first s holds
  rw [run_bind, ran]
  cases result with
  | error e => exact ⟨s', rfl, kept⟩
  | ok a => exact rest a s' kept

theorem yields_mapM {inv : σ → Prop} {f : α → ExceptT ε (StateM σ) β} {result : α → Except ε β}
    (each : ∀ a, Yields inv (f a) (result a)) (items : List α) :
    Yields inv (items.mapM f) (items.mapM result) := by
  induction items with
  | nil => exact yields_pure []
  | cons item rest ih =>
    rw [List.mapM_cons, List.mapM_cons]
    exact (each item).bind fun _ => ih.bind fun _ => yields_pure _

/-! ### What becomes of the state -/

/-- Whatever comes of the run, it leads from a state to one that is related to it. -/
def Moves (R : σ → σ → Prop) (x : ExceptT ε (StateM σ) α) : Prop :=
  ∀ s, R s (x s).2

variable {R : σ → σ → Prop} [IsPreorder σ R]

theorem moves_of_same {x : ExceptT ε (StateM σ) α} (same : ∀ s, (x s).2 = s) : Moves R x :=
  fun s => (same s).symm ▸ refl s

theorem moves_pure (a : α) : Moves R (pure a : ExceptT ε (StateM σ) α) :=
  moves_of_same fun _ => rfl

theorem moves_throw (e : ε) : Moves R (throw e : ExceptT ε (StateM σ) α) :=
  moves_of_same fun _ => rfl

theorem Moves.bind {x : ExceptT ε (StateM σ) α} {f : α → ExceptT ε (StateM σ) β} (first : Moves R x)
    (next : ∀ a, Moves R (f a)) : Moves R (x >>= f) := by
  intro s
  have before := first s
  rw [run_bind]
  generalize x s = outcome at before ⊢
  obtain ⟨_ | a, s'⟩ := outcome
  · exact before
  · exact trans_of R before (next a s')

omit [IsPreorder σ R] in
/-- A run that leaves every state as it is gives from a state what it gives. -/
theorem Moves.yields {x : ExceptT ε (StateM σ) α} (quiet : Moves Eq x) (s : σ) :
    Yields (· = s) x (x s).1 := by
  rintro _ rfl
  exact ⟨_, rfl, (quiet _).symm⟩

omit [IsPreorder σ R] in
theorem Moves.bind_congr {x : ExceptT ε (StateM σ) α} (moves : Moves R x)
    {f g : α → ExceptT ε (StateM σ) β} {s : σ} (same : ∀ a s', R s s' → f a s' = g a s') :
    (x >>= f) s = (x >>= g) s := by
  have after := moves s
  rw [run_bind, run_bind]
  generalize x s = outcome at after ⊢
  obtain ⟨_ | a, s'⟩ := outcome
  · rfl
  · exact same a s' after

theorem Moves.tryCatch {x : ExceptT ε (StateM σ) α} {handle : ε → ExceptT ε (StateM σ) α}
    (first : Moves R x) (next : ∀ e, Moves R (handle e)) : Moves R (tryCatch x handle) := by
  intro s
  have before := first s
  rw [run_tryCatch]
  generalize x s = outcome at before ⊢
  obtain ⟨e | _, s'⟩ := outcome
  · exact trans_of R before (next e s')
  · exact before

theorem moves_mapM {f : α → ExceptT ε (StateM σ) β} {items : List α}
    (each : ∀ a ∈ items, Moves R (f a)) : Moves R (items.mapM f) := by
  induction items with
  | nil => exact moves_pure []
  | cons item rest ih =>
    rw [List.mapM_cons]
    have others := ih fun a member => each a (List.mem_cons_of_mem item member)
    exact (each item List.mem_cons_self).bind fun _ => others.bind fun _ => moves_pure _

/-! ### Where runs end that return -/

/-- Wherever the run starts, it ends in a good state if it returns. -/
def EndsIn (good : σ → Prop) (x : ExceptT ε (StateM σ) α) : Prop :=
  ∀ s a s', x s = (.ok a, s') → good s'

variable {good : σ → Prop}

theorem endsIn_throw (e : ε) : EndsIn good (throw e : ExceptT ε (StateM σ) α) := nofun

theorem EndsIn.after {f : α → ExceptT ε (StateM σ) β} (x : ExceptT ε (StateM σ) α)
    (next : ∀ a, EndsIn good (f a)) : EndsIn good (x >>= f) := by
  intro s b s' ran
  obtain ⟨a, s₁, _, ran⟩ := run_ok ran
  exact next a s₁ b s' ran

theorem EndsIn.tryCatch {x : ExceptT ε (StateM σ) α} {handle : ε → ExceptT ε (StateM σ) α}
    (first : EndsIn good x) (next : ∀ e, EndsIn good (handle e)) :
    EndsIn good (tryCatch x handle) := by
  intro s a s' ran
  rw [run_tryCatch] at ran
  split at ran
  · rename_i b s₁ one
    obtain ⟨-, rfl⟩ := Prod.mk.inj ran
    exact first s b _ one
  · rename_i e s₁ _
    exact next e s₁ a s' ran

end Actions

end ScriptDeps
