import Mathlib.Data.List.Nodup
import ScriptDeps.Json.Reader
import ScriptDeps.Proofs.Running

/-!
# Values that bind each name once

An object that is read never binds a name twice, at whatever depth it stands. `read_proper` follows
the machine that reads tokens: what it keeps of open lists and objects is proper after every token.
-/

namespace ScriptDeps.Json

/-- Every object in the value binds each of its names once. -/
inductive Proper : Json → Prop
  | atom {value : Json} (atomic : value.isAtomic = true) : Proper value
  | list {items : List Json} (each : ∀ item ∈ items, Proper item) : Proper (.list items)
  | object {members : List (LooseText × Json)} (unique : (members.map (·.1)).Nodup)
      (each : ∀ member ∈ members, Proper member.2) : Proper (.object members)

structure ProperMembers (members : List (LooseText × Json)) : Prop where
  unique : (members.map (·.1)).Nodup
  each : ∀ member ∈ members, Proper member.2

theorem ProperMembers.nil : ProperMembers [] := ⟨List.nodup_nil, nofun⟩

theorem ProperMembers.value {members : List (LooseText × Json)} (h : ProperMembers members) :
    Proper (.object members) :=
  .object h.unique h.each

theorem Proper.members {members : List (LooseText × Json)} (h : Proper (.object members)) :
    ProperMembers members := by
  cases h with
  | atom atomic => cases atomic
  | object unique each => exact ⟨unique, each⟩

/-! ### Members -/

theorem lookup?_cons (name : LooseText) (member : LooseText × Json)
    (rest : List (LooseText × Json)) :
    lookup? name (member :: rest) = if member.1 = name then some member.2 else lookup? name rest := by
  unfold lookup?
  by_cases same : member.1 = name
  · rw [List.find?_cons_of_pos (by simpa using same), if_pos same, Option.map_some]
  · rw [List.find?_cons_of_neg (by simpa using same), if_neg same]

theorem lookup?_put (name other : LooseText) (value : Json) (members : List (LooseText × Json)) :
    lookup? other (put name value members) =
      if name = other then some value else lookup? other members := by
  induction members with
  | nil => rw [put, lookup?_cons]
  | cons member rest ih =>
    obtain ⟨bound, old⟩ := member
    rw [put]
    by_cases here : bound = name
    · subst here
      rw [if_pos rfl, lookup?_cons, lookup?_cons]
      split <;> rfl
    · rw [if_neg here, lookup?_cons, lookup?_cons, ih]
      by_cases there : bound = other
      · subst there
        simp [Ne.symm here]
      · simp [there]

theorem put_of_lookup? {name : LooseText} {value : Json} {members : List (LooseText × Json)}
    (bound : lookup? name members = some value) : put name value members = members := by
  induction members with
  | nil => cases bound
  | cons member rest ih =>
    obtain ⟨other, old⟩ := member
    rw [lookup?_cons] at bound
    rw [put]
    by_cases here : other = name
    · rw [if_pos here] at bound
      rw [if_pos here, ← here, ← Option.some.inj bound]
    · rw [if_neg here] at bound
      rw [if_neg here, ih bound]

theorem mem_of_lookup? {name : LooseText} {value : Json} {members : List (LooseText × Json)}
    (bound : lookup? name members = some value) : (name, value) ∈ members := by
  obtain ⟨member, found, same⟩ := Option.map_eq_some_iff.mp bound
  have named : member.1 = name := by simpa using List.find?_some found
  rw [← named, ← same]
  exact List.mem_of_find?_eq_some found

theorem mem_put {name : LooseText} {value : Json} {members : List (LooseText × Json)}
    {member : LooseText × Json} (among : member ∈ put name value members) :
    member = (name, value) ∨ member ∈ members := by
  induction members with
  | nil => exact .inl (List.mem_singleton.mp among)
  | cons first rest ih =>
    rw [put] at among
    split at among
    · rcases List.mem_cons.mp among with same | later
      · exact .inl same
      · exact .inr (List.mem_cons_of_mem first later)
    · rcases List.mem_cons.mp among with same | later
      · exact .inr (same ▸ List.mem_cons_self)
      · exact (ih later).imp_right (List.mem_cons_of_mem first)

theorem unique_put {members : List (LooseText × Json)} (unique : (members.map (·.1)).Nodup)
    (name : LooseText) (value : Json) : ((put name value members).map (·.1)).Nodup := by
  induction members with
  | nil => exact List.nodup_singleton name
  | cons first rest ih =>
    rw [List.map_cons, List.nodup_cons] at unique
    rw [put]
    split
    · rename_i here
      rw [List.map_cons, List.nodup_cons, ← here]
      exact unique
    · rename_i other
      rw [List.map_cons, List.nodup_cons]
      refine ⟨fun member => ?_, ih unique.2⟩
      obtain ⟨again, among, same⟩ := List.mem_map.mp member
      rcases mem_put among with rfl | old
      · exact other same.symm
      · exact unique.1 (same ▸ List.mem_map_of_mem old)

theorem ProperMembers.put {members : List (LooseText × Json)} (h : ProperMembers members)
    (name : LooseText) {value : Json} (proper : Proper value) :
    ProperMembers (put name value members) := by
  refine ⟨unique_put h.unique name value, fun member among => ?_⟩
  rcases mem_put among with rfl | old
  · exact proper
  · exact h.each member old

/-! ### Tokens -/

/-- A value that is a token of its own is neither a list nor an object. -/
def Token.Atomic : Token → Prop
  | .value json => json.isAtomic = true
  | _ => True

theorem NumberText.token_atomic (n : NumberText) : n.token.Atomic := by
  unfold NumberText.token
  split
  · split
    · trivial
    · rfl
  · rfl

theorem wordTokens_atomic (word : List Char) : ∀ token ∈ wordTokens word, token.Atomic := by
  unfold wordTokens
  iterate 6
    split
    · exact List.forall_mem_singleton.mpr rfl
  split
  · exact List.forall_mem_singleton.mpr (NumberText.token_atomic _)
  · exact List.forall_mem_cons.mpr
      ⟨NumberText.token_atomic _, List.forall_mem_singleton.mpr trivial⟩
  · exact List.forall_mem_singleton.mpr trivial

theorem mark?_atomic {c : Char} {token : Token} (mark : mark? c = some token) : token.Atomic := by
  unfold mark? at mark
  iterate 6
    split at mark
    · rw [← Option.some.inj mark]
      trivial
  cases mark

theorem startToken_atomic (c : Char) : ∀ token ∈ (startToken c).1, token.Atomic := by
  unfold startToken
  iterate 3
    split
    · exact nofun
  split
  · rename_i token mark
    exact List.forall_mem_singleton.mpr (mark?_atomic mark)
  · exact List.forall_mem_singleton.mpr trivial

theorem feed_atomic (c : Char) (cutter : Cutter) : ∀ token ∈ (feed c cutter).1, token.Atomic := by
  cases cutter with
  | between => exact startToken_atomic c
  | inWord read =>
    rw [feed]
    split
    · exact nofun
    · exact List.forall_mem_append.mpr ⟨wordTokens_atomic _, startToken_atomic c⟩
  | inText read high =>
    rw [feed]
    split
    · exact nofun
    split
    · exact List.forall_mem_singleton.mpr rfl
    split
    · exact List.forall_mem_singleton.mpr trivial
    · exact nofun
  | inEscape read high =>
    rw [feed]
    split
    · exact nofun
    split
    · exact nofun
    · exact List.forall_mem_singleton.mpr trivial
  | inUnit read high digits =>
    rw [feed]
    split
    · exact List.forall_mem_singleton.mpr trivial
    split
    · exact nofun
    · exact nofun

theorem tokensFrom_atomic (cutter : Cutter) (text : List Char) :
    ∀ token ∈ tokensFrom cutter text, token.Atomic := by
  induction text generalizing cutter with
  | nil =>
    cases cutter with
    | between => exact nofun
    | inWord read => exact wordTokens_atomic _
    | _ => exact List.forall_mem_singleton.mpr trivial
  | cons c rest ih => exact List.forall_mem_append.mpr ⟨feed_atomic c cutter, ih _⟩

/-! ### The machine -/

def Frame.Proper : Frame → Prop
  | .items read => ∀ item ∈ read, Json.Proper item
  | .members read _ => ProperMembers read

def Awaited.Proper : Awaited → Prop
  | .name read => ProperMembers read
  | .colon read _ => ProperMembers read
  | .more done => Json.Proper done
  | _ => True

/-- What the machine keeps between two tokens. -/
def ProperState (state : List Frame × Awaited) : Prop :=
  (∀ frame ∈ state.1, frame.Proper) ∧ state.2.Proper

theorem closeFrame_proper {stack : List Frame} {done : Json} {token : Token}
    {next : List Frame × Awaited} (frames : ∀ frame ∈ stack, frame.Proper) (proper : Proper done)
    (closed : closeFrame stack done token = .ok next) : ProperState next := by
  cases stack with
  | nil => cases token <;> cases closed
  | cons frame rest =>
    obtain ⟨innermost, outer⟩ := List.forall_mem_cons.mp frames
    cases frame with
    | items read =>
      have all : ∀ item ∈ done :: read, Proper item := List.forall_mem_cons.mpr ⟨proper, innermost⟩
      cases token with
      | comma =>
        rw [← Except.ok.inj closed]
        exact ⟨List.forall_mem_cons.mpr ⟨all, outer⟩, trivial⟩
      | closeList =>
        rw [← Except.ok.inj closed]
        exact ⟨outer, .list fun item member => all item (List.mem_reverse.mp member)⟩
      | _ => cases closed
    | members read name =>
      have all : ProperMembers (put name done read) := ProperMembers.put innermost name proper
      cases token with
      | comma =>
        rw [← Except.ok.inj closed]
        exact ⟨outer, all⟩
      | closeObject =>
        rw [← Except.ok.inj closed]
        exact ⟨outer, all.value⟩
      | _ => cases closed

theorem openFrame_proper {stack : List Frame} {token : Token} {next : List Frame × Awaited}
    (frames : ∀ frame ∈ stack, frame.Proper) (atomic : token.Atomic)
    (opened : openFrame stack token = .ok next) : ProperState next := by
  cases token with
  | value json =>
    rw [← Except.ok.inj opened]
    exact ⟨frames, .atom atomic⟩
  | openList =>
    rw [openFrame] at opened
    split at opened
    · cases opened
    · rw [← Except.ok.inj opened]
      exact ⟨frames, trivial⟩
  | openObject =>
    rw [openFrame] at opened
    split at opened
    · cases opened
    · rw [← Except.ok.inj opened]
      exact ⟨frames, trivial⟩
  | _ => cases opened

theorem take_proper {stack : List Frame} {awaited : Awaited} {token : Token}
    {next : List Frame × Awaited} (before : ProperState (stack, awaited)) (atomic : token.Atomic)
    (taken : take stack awaited token = .ok next) : ProperState next := by
  obtain ⟨frames, kept⟩ := before
  unfold take at taken
  cases awaited with
  | value => exact openFrame_proper frames atomic taken
  | firstItem =>
    dsimp only at taken
    split at taken
    · rw [← Except.ok.inj taken]
      exact ⟨frames, .list nofun⟩
    · have empty : Frame.Proper (.items []) := fun _ member => absurd member List.not_mem_nil
      exact openFrame_proper (List.forall_mem_cons.mpr ⟨empty, frames⟩) atomic taken
  | firstName =>
    dsimp only at taken
    split at taken
    · rw [← Except.ok.inj taken]
      exact ⟨frames, ProperMembers.nil.value⟩
    · rw [← Except.ok.inj taken]
      exact ⟨frames, ProperMembers.nil⟩
    · cases taken
  | name read =>
    dsimp only at taken
    split at taken
    · rw [← Except.ok.inj taken]
      exact ⟨frames, kept⟩
    · cases taken
  | colon read name =>
    dsimp only at taken
    split at taken
    · rw [← Except.ok.inj taken]
      exact ⟨List.forall_mem_cons.mpr ⟨kept, frames⟩, trivial⟩
    · cases taken
  | more done => exact closeFrame_proper frames kept taken

theorem readTokens_proper {stack : List Frame} {awaited : Awaited} {tokens : List Token}
    {value : Json} (before : ProperState (stack, awaited))
    (atomic : ∀ token ∈ tokens, token.Atomic)
    (read : readTokens stack awaited tokens = .ok value) : Proper value := by
  induction tokens generalizing stack awaited with
  | nil =>
    unfold readTokens at read
    split at read
    · rw [← Except.ok.inj read]
      exact before.2
    · cases read
  | cons token rest ih =>
    obtain ⟨here, later⟩ := List.forall_mem_cons.mp atomic
    obtain ⟨next, taken, read⟩ := bind_ok read
    exact ih (take_proper before here taken) later read

/-- No object that is read binds a name twice. -/
theorem read_proper {text : String} {value : Json} (read : Json.read text = .ok value) :
    Proper value := by
  have start : ProperState ([], .value) := ⟨fun _ member => absurd member List.not_mem_nil, trivial⟩
  exact readTokens_proper start (tokensFrom_atomic .between text.toList) read

end ScriptDeps.Json
