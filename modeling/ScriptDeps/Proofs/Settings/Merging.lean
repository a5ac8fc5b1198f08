import ScriptDeps.Proofs.Json.Proper
import ScriptDeps.UserSettings

/-!
# Merging settings

What a merge of two values holds at every path of names: `override_mergedAt` tells it from what each
of the two holds there. Merging the same value once more changes nothing.
-/

namespace ScriptDeps.Json

def isObject : Json → Bool
  | object _ => true
  | _ => false

theorem exists_members {value : Json} (h : value.isObject = true) :
    ∃ members, value = object members := by
  cases value with
  | object members => exact ⟨members, rfl⟩
  | _ => cases h

/-! ### Paths -/

def member? (name : LooseText) : Json → Option Json
  | object members => lookup? name members
  | _ => none

theorem member?_of_not_object {value : Json} (h : value.isObject = false) (name : LooseText) :
    value.member? name = none := by
  cases value with
  | object members => cases h
  | _ => rfl

/-- The value that a path of names leads to, whatever the names are made of. -/
def follow? (value : Json) : List LooseText → Option Json
  | [] => some value
  | name :: rest => (value.member? name).bind fun inner => follow? inner rest

theorem descend?_eq (value : Json) (path : List String) :
    value.descend? path = value.follow? (path.map LooseText.ofString) := by
  induction path generalizing value with
  | nil => rfl
  | cons name rest ih =>
    have first : value.get? name = value.member? (.ofString name) := by cases value <;> rfl
    rw [descend?, List.map_cons, follow?, first]
    exact congrArg (Option.bind _) (funext ih)

/-- A value that is no object stands before the end of the path. -/
def Blocks (value : Json) (path : List LooseText) : Prop :=
  ∃ before after inner, path = before ++ after ∧ after ≠ [] ∧
    value.follow? before = some inner ∧ inner.isObject = false

theorem blocks_of_not_object {value : Json} (h : value.isObject = false) (name : LooseText)
    (rest : List LooseText) : value.Blocks (name :: rest) :=
  ⟨[], name :: rest, value, rfl, List.cons_ne_nil _ _, rfl, h⟩

theorem blocks_cons {value : Json} (h : value.isObject = true) (name : LooseText)
    (rest : List LooseText) :
    value.Blocks (name :: rest) ↔ ∃ inner, value.member? name = some inner ∧ inner.Blocks rest := by
  constructor
  · rintro ⟨before, after, last, same, more, reached, leaf⟩
    cases before with
    | nil =>
      rw [follow?] at reached
      rw [← Option.some.inj reached, h] at leaf
      cases leaf
    | cons first before =>
      obtain ⟨rfl, rfl⟩ := List.cons_eq_cons.mp same
      obtain ⟨inner, step, reached⟩ := Option.bind_eq_some_iff.mp reached
      exact ⟨inner, step, before, after, last, rfl, more, reached, leaf⟩
  · rintro ⟨inner, step, before, after, last, rfl, more, reached, leaf⟩
    refine ⟨name :: before, after, last, rfl, more, ?_, leaf⟩
    rw [follow?, step]
    exact reached

/-! ### One object over another -/

theorem override_of_not_objects {base upper : Json}
    (h : base.isObject = true → upper.isObject = false) : base.override upper = upper := by
  unfold override
  split
  · split
    · cases h rfl
    · rfl
  · rfl

/-- What a name is bound to after a value has been merged into what it was bound to. -/
def mergedInto (old : Option Json) (value : Json) : Json :=
  match old with
  | some old => old.override value
  | none => value

theorem lookup?_overrideMembers {members : List (LooseText × Json)}
    (unique : (members.map (·.1)).Nodup) (base : List (LooseText × Json)) (name : LooseText) :
    lookup? name (overrideMembers base members) =
      match lookup? name members with
      | some value => some (mergedInto (lookup? name base) value)
      | none => lookup? name base := by
  induction members generalizing base with
  | nil => rfl
  | cons member rest ih =>
    obtain ⟨first, value⟩ := member
    rw [List.map_cons, List.nodup_cons] at unique
    have merged : overrideMembers base ((first, value) :: rest) =
        overrideMembers (put first (mergedInto (lookup? first base) value) base) rest := by
      rw [overrideMembers]
      rfl
    rw [merged, ih unique.2, lookup?_cons, lookup?_put]
    by_cases here : first = name
    · subst here
      have later : lookup? first rest = none := by
        by_contra bound
        obtain ⟨again, bound⟩ := Option.ne_none_iff_exists'.mp bound
        exact unique.1 (List.mem_map_of_mem (f := (·.1)) (mem_of_lookup? bound))
      rw [later]
      simp
    · simp [here]

/-- What stands in a merge at a path. -/
structure MergedAt (path : List LooseText) (base upper merged : Json) : Prop where
  overridden : ∀ value, upper.follow? path = some value →
    (∀ old, base.follow? path = some old → old.isObject = true → value.isObject = false) →
    merged.follow? path = some value
  joined : ∀ old value, base.follow? path = some old → upper.follow? path = some value →
    old.isObject = true → value.isObject = true → merged.follow? path = some (old.override value)
  inherited : upper.follow? path = none → ¬upper.Blocks path →
    merged.follow? path = base.follow? path
  hidden : upper.follow? path = none → upper.Blocks path → merged.follow? path = none

/-- Where the base ends before the path does, the merge is what is laid over it. -/
theorem mergedAt_of_base_none {path : List LooseText} {base upper merged : Json}
    (none : base.follow? path = none) (same : merged.follow? path = upper.follow? path) :
    MergedAt path base upper merged where
  overridden value found _ := by rw [same, found]
  joined old value had := by
    rw [none] at had
    cases had
  inherited missing _ := by rw [same, missing, none]
  hidden missing _ := by rw [same, missing]

theorem mergedAt_of_leaf {upper : Json} (leaf : upper.isObject = false) (base : Json)
    (name : LooseText) (rest : List LooseText) : MergedAt (name :: rest) base upper upper := by
  have ends : upper.follow? (name :: rest) = none := by
    rw [follow?, member?_of_not_object leaf]
    rfl
  refine ⟨fun value found => ?_, fun old value _ found => ?_, fun _ open_ => ?_, fun _ _ => ends⟩
  · rw [ends] at found
    cases found
  · rw [ends] at found
    cases found
  · exact absurd (blocks_of_not_object leaf name rest) open_

section Members

variable {old members merged : List (LooseText × Json)} {name : LooseText}

theorem follow?_object (members : List (LooseText × Json)) (name : LooseText)
    (rest : List LooseText) : (object members).follow? (name :: rest) =
      (lookup? name members).bind fun inner => inner.follow? rest := rfl

theorem mergedAt_of_unbound (unbound : lookup? name members = none)
    (kept : lookup? name merged = lookup? name old) (rest : List LooseText) :
    MergedAt (name :: rest) (object old) (object members) (object merged) := by
  have ends : (object members).follow? (name :: rest) = none := by
    rw [follow?_object, unbound, Option.bind_none]
  refine ⟨fun value found => ?_, fun old value _ found => ?_, fun _ _ => ?_, fun _ shut => ?_⟩
  · rw [ends] at found
    cases found
  · rw [ends] at found
    cases found
  · rw [follow?_object, follow?_object, kept]
  · have isObject : (object members).isObject = true := rfl
    obtain ⟨inner, here, _⟩ := (blocks_cons isObject name rest).mp shut
    rw [member?, unbound] at here
    cases here

/-- What a merge of two members holds, the merge of their objects holds under their name. -/
theorem MergedAt.under {rest : List LooseText} {inner value result : Json}
    (deeper : MergedAt rest inner value result) (before : lookup? name old = some inner)
    (bound : lookup? name members = some value) (into : lookup? name merged = some result) :
    MergedAt (name :: rest) (object old) (object members) (object merged) := by
  have isObject : (object members).isObject = true := rfl
  have shut : (object members).Blocks (name :: rest) ↔ value.Blocks rest := by
    rw [blocks_cons isObject, member?, bound]
    simp
  constructor
  · simp only [follow?_object, before, bound, into, Option.bind_some]
    exact deeper.overridden
  · simp only [follow?_object, before, bound, into, Option.bind_some]
    exact deeper.joined
  · simp only [follow?_object, before, bound, into, Option.bind_some, shut]
    exact deeper.inherited
  · simp only [follow?_object, bound, into, Option.bind_some, shut]
    exact deeper.hidden

end Members

theorem override_mergedAt {upper : Json} (proper : upper.Proper) (base : Json)
    (path : List LooseText) : MergedAt path base upper (base.override upper) := by
  induction path generalizing base upper with
  | nil =>
    refine ⟨fun value found apart => ?_, fun old value had found _ _ => ?_, nofun, nofun⟩
    · rw [← Option.some.inj found] at apart ⊢
      rw [override_of_not_objects (apart base rfl)]
      rfl
    · rw [← Option.some.inj had, ← Option.some.inj found]
      rfl
  | cons name rest ih =>
    by_cases leaf : upper.isObject = false
    · rw [override_of_not_objects fun _ => leaf]
      exact mergedAt_of_leaf leaf base name rest
    rw [Bool.not_eq_false] at leaf
    by_cases had : base.isObject = false
    · have ends : base.follow? (name :: rest) = none := by
        rw [follow?, member?_of_not_object had]
        rfl
      have whole : base.override upper = upper :=
        override_of_not_objects fun object => by rw [had] at object; cases object
      exact mergedAt_of_base_none ends (by rw [whole])
    rw [Bool.not_eq_false] at had
    obtain ⟨members, rfl⟩ := exists_members leaf
    obtain ⟨old, rfl⟩ := exists_members had
    have step := lookup?_overrideMembers proper.members.unique old name
    rw [override]
    cases bound : lookup? name members with
    | none =>
      rw [bound] at step
      exact mergedAt_of_unbound bound step rest
    | some value =>
      rw [bound] at step
      cases before : lookup? name old with
      | none =>
        rw [before] at step
        have ends : (object old).follow? (name :: rest) = none := by
          rw [follow?_object, before, Option.bind_none]
        have above : (object (overrideMembers old members)).follow? (name :: rest) =
            (object members).follow? (name :: rest) := by
          rw [follow?_object, follow?_object, step, bound]
          rfl
        exact mergedAt_of_base_none ends above
      | some inner =>
        rw [before] at step
        have deeper := ih (proper.members.each _ (mem_of_lookup? bound)) inner
        exact deeper.under before bound step

/-! ### Merging again -/

theorem overrideMembers_of_settled {base members : List (LooseText × Json)}
    (settled : ∀ member ∈ members, ∃ old, lookup? member.1 base = some old ∧
      old.override member.2 = old) : overrideMembers base members = base := by
  induction members with
  | nil => rfl
  | cons member rest ih =>
    obtain ⟨⟨old, bound, same⟩, later⟩ := List.forall_mem_cons.mp settled
    rw [overrideMembers, bound]
    dsimp only
    rw [same, put_of_lookup? bound]
    exact ih later

theorem lookup?_of_mem {members : List (LooseText × Json)} (unique : (members.map (·.1)).Nodup)
    {member : LooseText × Json} (among : member ∈ members) :
    lookup? member.1 members = some member.2 := by
  induction members with
  | nil => cases among
  | cons first rest ih =>
    rw [List.map_cons, List.nodup_cons] at unique
    rw [lookup?_cons]
    rcases List.mem_cons.mp among with rfl | later
    · rw [if_pos rfl]
    · have apart : first.1 ≠ member.1 := fun same =>
        unique.1 (same ▸ List.mem_map_of_mem later)
      rw [if_neg apart, ih unique.2 later]

/-- A value that is merged into itself stays as it is, and so does a merge that it is merged into
again. -/
theorem override_settles {upper : Json} (proper : upper.Proper) :
    upper.override upper = upper ∧
      ∀ base : Json, (base.override upper).override upper = base.override upper := by
  induction proper with
  | @atom value atomic =>
    have leaf : value.isObject = false := by
      cases value with
      | object members => cases atomic
      | _ => rfl
    have whole : ∀ base : Json, base.override value = value := fun base =>
      override_of_not_objects fun _ => leaf
    exact ⟨whole value, fun base => by rw [whole, whole]⟩
  | @list items =>
    have whole : ∀ base : Json, base.override (list items) = list items := fun base =>
      override_of_not_objects fun _ => rfl
    exact ⟨whole _, fun base => by rw [whole, whole]⟩
  | @object members unique each settles =>
    have self : (object members).override (object members) = object members := by
      rw [override]
      refine congrArg object (overrideMembers_of_settled fun member among => ?_)
      exact ⟨member.2, lookup?_of_mem unique among, (settles member among).1⟩
    refine ⟨self, fun base => ?_⟩
    by_cases had : base.isObject = false
    · have whole : base.override (object members) = object members :=
        override_of_not_objects fun object => by rw [had] at object; cases object
      rw [whole, self]
    rw [Bool.not_eq_false] at had
    obtain ⟨old, rfl⟩ := exists_members had
    have merged : (object old).override (object members) = object (overrideMembers old members) := by
      rw [override]
    rw [merged, override]
    refine congrArg object (overrideMembers_of_settled fun member among => ?_)
    have bound := lookup?_overrideMembers unique old member.1
    rw [lookup?_of_mem unique among] at bound
    refine ⟨_, bound, ?_⟩
    obtain ⟨again, merges⟩ := settles member among
    cases lookup? member.1 old with
    | some before => exact merges before
    | none => exact again

end ScriptDeps.Json
