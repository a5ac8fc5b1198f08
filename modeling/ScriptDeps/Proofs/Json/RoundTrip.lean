import Mathlib.Data.List.Nodup
import ScriptDeps.Proofs.Json.Cutting
import ScriptDeps.Proofs.Running

/-!
# Written values read back

Reading the tokens of a value gives the value, in whatever list or object it stands, as long as the
nesting is not too deep. Together with the cutting of what was written, `read_write` says that a
value of texts is read back as it was.
-/

namespace ScriptDeps.Json

variable {stack : List Frame} {more : List Token}

theorem readTokens_cons (awaited : Awaited) (token : Token) :
    readTokens stack awaited (token :: more) =
      take stack awaited token >>= fun next => readTokens next.1 next.2 more := rfl

/-- The tokens of a value are read as the value, in a list or an object that is open. -/
def ReadsBack (value : Json) : Prop :=
  ∀ (stack : List Frame) (more : List Token), stack.length + value.depth ≤ maxDepth →
    readTokens stack .value (tokens value ++ more) = readTokens stack (.more value) more

/-- The first item of a list is read as any other, for no value begins as a list ends. -/
theorem readTokens_firstItem (value : Json) :
    readTokens stack .firstItem (tokens value ++ more) =
      readTokens (.items [] :: stack) .value (tokens value ++ more) := by
  cases value with
  | list items => cases items <;> rfl
  | object members => cases members <;> rfl
  | _ => rfl

/-! ### Lists -/

theorem readTokens_itemTokens {items : List Json} (each : ∀ item ∈ items, ReadsBack item)
    (shallow : stack.length + 1 + depthOfItems items ≤ maxDepth) (read : List Json) (done : Json) :
    readTokens (.items read :: stack) (.more done) (itemTokens items ++ .closeList :: more) =
      readTokens stack (.more (.list (read.reverse ++ done :: items))) more := by
  induction items generalizing read done with
  | nil =>
    rw [itemTokens, List.nil_append, readTokens_cons, take, closeFrame, ok_bind, List.reverse_cons]
  | cons item items ih =>
    rw [depthOfItems] at shallow
    rw [itemTokens, List.cons_append, readTokens_cons, take, closeFrame, ok_bind, List.append_assoc,
      each item List.mem_cons_self _ _ (by rw [List.length_cons]; omega),
      ih (fun item member => each item (List.mem_cons_of_mem _ member)) (by omega),
      List.reverse_cons, List.append_assoc, List.singleton_append]

/-! ### Objects -/

theorem put_new {name : LooseText} {members : List (LooseText × Json)}
    (new : name ∉ members.map (·.1)) (value : Json) :
    put name value members = members ++ [(name, value)] := by
  induction members with
  | nil => rfl
  | cons member members ih =>
    rw [List.map_cons, List.mem_cons, not_or] at new
    rw [put, if_neg (Ne.symm new.1), ih new.2, List.cons_append]

theorem readTokens_memberTokens {members : List (LooseText × Json)}
    (each : ∀ member ∈ members, ReadsBack member.2)
    (shallow : stack.length + 1 + depthOfMembers members ≤ maxDepth)
    (read : List (LooseText × Json)) (name : LooseText) (done : Json)
    (unique : ((read ++ (name, done) :: members).map (·.1)).Nodup) :
    readTokens (.members read name :: stack) (.more done)
        (memberTokens members ++ .closeObject :: more) =
      readTokens stack (.more (.object (read ++ (name, done) :: members))) more := by
  have new : name ∉ read.map (·.1) := by
    rw [List.map_append, List.map_cons] at unique
    exact fun old => (List.nodup_append.mp unique).2.2 name old name List.mem_cons_self rfl
  induction members generalizing read name done with
  | nil =>
    rw [memberTokens, List.nil_append, readTokens_cons, take, closeFrame, ok_bind, put_new new]
  | cons member members ih =>
    obtain ⟨other, value⟩ := member
    rw [depthOfMembers] at shallow
    have regroup : read ++ (name, done) :: (other, value) :: members =
        (read ++ [(name, done)]) ++ (other, value) :: members := by
      rw [List.append_assoc, List.singleton_append]
    rw [regroup] at unique ⊢
    rw [memberTokens, List.cons_append, readTokens_cons, take, closeFrame, ok_bind, put_new new,
      List.cons_append, readTokens_cons, take, ok_bind, List.cons_append, readTokens_cons, take,
      ok_bind, List.append_assoc,
      each _ List.mem_cons_self _ _ (by dsimp only [List.length_cons]; omega)]
    refine ih (fun member here => each member (List.mem_cons_of_mem _ here)) (by omega) _ _ _ unique ?_
    rw [List.map_append, List.map_cons] at unique
    exact fun old => (List.nodup_append.mp unique).2.2 other old other List.mem_cons_self rfl

/-! ### Values -/

theorem readsBack_list {items : List Json} (each : ∀ item ∈ items, ReadsBack item) :
    ReadsBack (.list items) := by
  intro stack more shallow
  rw [depth] at shallow
  have room : ¬ stack.length ≥ maxDepth := by omega
  cases items with
  | nil =>
    rw [tokens, List.cons_append, readTokens_cons, take, openFrame, if_neg room]
    rfl
  | cons item items =>
    rw [depthOfItems] at shallow
    rw [tokens, List.cons_append, readTokens_cons, take, openFrame, if_neg room, ok_bind]
    simp only [List.append_assoc]
    rw [readTokens_firstItem,
      each item List.mem_cons_self _ _ (by rw [List.length_cons]; omega), List.singleton_append,
      readTokens_itemTokens (fun item member => each item (List.mem_cons_of_mem _ member)) (by omega),
      List.reverse_nil, List.nil_append]

theorem readsBack_object {members : List (LooseText × Json)} (unique : (members.map (·.1)).Nodup)
    (each : ∀ member ∈ members, ReadsBack member.2) : ReadsBack (.object members) := by
  intro stack more shallow
  rw [depth] at shallow
  have room : ¬ stack.length ≥ maxDepth := by omega
  cases members with
  | nil =>
    rw [tokens, List.cons_append, readTokens_cons, take, openFrame, if_neg room]
    rfl
  | cons member members =>
    obtain ⟨name, value⟩ := member
    rw [depthOfMembers] at shallow
    rw [tokens, List.cons_append, readTokens_cons, take, openFrame, if_neg room, ok_bind,
      List.cons_append, readTokens_cons, take, ok_bind, List.cons_append, readTokens_cons, take,
      ok_bind]
    simp only [List.append_assoc]
    rw [each _ List.mem_cons_self _ _ (by dsimp only [List.length_cons]; omega),
      List.singleton_append,
      readTokens_memberTokens (fun member here => each member (List.mem_cons_of_mem _ here)) (by omega)
        [] name value unique, List.nil_append]

theorem Textual.readsBack {value : Json} (textual : Textual value) : ReadsBack value := by
  induction textual with
  | null => exact fun stack more _ => rfl
  | bool value => exact fun stack more _ => rfl
  | text value => exact fun stack more _ => rfl
  | list _ ih => exact readsBack_list ih
  | object unique _ _ ih => exact readsBack_object unique ih

/-- A value that is cut into its tokens and read from them is read where it was written, also with
white space after it. -/
theorem read_written {value : Json} {layout : Layout} {blank : List Char}
    (cut : CutsAs layout value) (back : ReadsBack value) (shallow : value.depth ≤ maxDepth)
    (ends : EndsWord blank) (white : tokensFrom .between blank = []) :
    read (value.write layout ++ String.ofList blank) = .ok value := by
  have read_ := back [] [] (by rw [List.length_nil]; omega)
  rw [read, write, String.toList_append, String.toList_ofList, String.toList_ofList, cut 0 _ ends,
    white, read_]
  rfl

/-- A value of texts that is not nested too deeply is read back as it was written, in every
layout. -/
theorem read_write {value : Json} (textual : Textual value) (shallow : value.depth ≤ maxDepth)
    (layout : Layout) : read (value.write layout) = .ok value := by
  have back := @read_written _ _ [] (textual.cutsAs layout) textual.readsBack shallow nofun rfl
  rwa [String.ofList_nil, String.append_empty] at back

theorem depthOfItems_le {items : List Json} (bound : Nat)
    (each : ∀ item ∈ items, item.depth ≤ bound) : depthOfItems items ≤ bound := by
  induction items with
  | nil => exact Nat.zero_le bound
  | cons item rest ih =>
    rw [depthOfItems]
    exact Nat.max_le.mpr ⟨each item List.mem_cons_self,
      ih fun item member => each item (List.mem_cons_of_mem _ member)⟩

theorem depth_ofTexts (texts : List String) : (ofTexts texts).depth ≤ 1 := by
  refine Nat.succ_le_succ (depthOfItems_le 0 fun item member => ?_)
  obtain ⟨text, _, rfl⟩ := List.mem_map.mp member
  exact Nat.le_refl 0

end ScriptDeps.Json
