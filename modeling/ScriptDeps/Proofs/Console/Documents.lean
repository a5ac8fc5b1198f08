import ScriptDeps.Console.Commands
import ScriptDeps.Proofs.Json.Integers
import ScriptDeps.Proofs.Text.Cutting

/-!
# Documents for machines

A command prints one JSON document for a machine: read as a whole, the output is the object that was
meant. `read_closure`, `read_error` and `read_decoration` say so of a closure, of an error and of
what wrapping a script has added.
-/

namespace ScriptDeps

/-! ### Regions of a script -/

theorem Script.breakLength_le (text : List Char) : breakLength text ≤ text.length := by
  unfold breakLength
  split <;> simp

theorem Script.markedRegion?_le {text : List Char} {region : Region}
    (marked : markedRegion? text = some region) :
    region.offset ≤ text.length ∧ region.length ≤ text.length := by
  obtain ⟨position, found, rfl⟩ := Option.map_eq_some_iff.mp marked
  dsimp only
  have before := (List.takeWhile_sublist (!isBreak ·) (l := (text.take position).reverse)).length_le
  have after := congrArg List.length
    (@List.takeWhile_append_dropWhile _ (!isBreak ·) (text.drop position))
  have ending := breakLength_le ((text.drop position).dropWhile (!isBreak ·))
  rw [List.length_reverse, List.length_take] at before
  rw [List.length_append, List.length_drop] at after
  have reached := Text.find?_add_le found
  omega

namespace Console

open Json (joined Countable)

/-! ### Objects -/

/-- An object whose names have no half of a surrogate pair standing alone. -/
def document (members : List (String × Json)) : Json :=
  .object (members.map fun member => (.ofString member.1, member.2))

/-- A value that a member of a document may have. -/
structure Legible (value : Json) : Prop where
  cut : Json.CutsAs .dense value
  back : Json.ReadsBack value
  shallow : value.depth < Json.maxDepth

theorem legible_joined (text : LooseText) : Legible (.text (joined text)) :=
  ⟨Json.cutsAs_joined text, fun _ _ _ => rfl, (by decide : 0 < Json.maxDepth)⟩

theorem legible_text (text : String) : Legible (.text text) :=
  Json.joined_ofString text ▸ legible_joined text

theorem legible_bool (value : Bool) : Legible (.bool value) :=
  ⟨(Json.Textual.bool value).cutsAs _, (Json.Textual.bool value).readsBack,
    (by decide : 0 < Json.maxDepth)⟩

theorem legible_integer {n : Int} (countable : Countable n) : Legible (.integer n) :=
  ⟨Json.cutsAs_integer countable, fun _ _ _ => rfl, (by decide : 0 < Json.maxDepth)⟩

theorem legible_ofTexts (texts : List String) : Legible (.ofTexts texts) :=
  ⟨(Json.textual_ofTexts texts).cutsAs _, (Json.textual_ofTexts texts).readsBack,
    Nat.lt_of_le_of_lt (Json.depth_ofTexts texts) (by decide)⟩

theorem depthOfMembers_lt {bound : Nat} {members : List (LooseText × Json)} (some : 0 < bound)
    (each : ∀ member ∈ members, member.2.depth < bound) : Json.depthOfMembers members < bound := by
  induction members with
  | nil => exact some
  | cons member rest ih =>
    rw [Json.depthOfMembers]
    exact Nat.max_lt.mpr ⟨each member List.mem_cons_self,
      ih fun other here => each other (List.mem_cons_of_mem _ here)⟩

theorem read_document {members : List (String × Json)} (unique : (members.map Prod.fst).Nodup)
    (each : ∀ member ∈ members, Legible member.2) :
    Json.read (jsonText .machine none (document members)).output = .ok (document members) := by
  have legible : ∀ member ∈ members.map fun member => (LooseText.ofString member.1, member.2),
      Legible member.2 := by
    intro member here
    obtain ⟨original, among, rfl⟩ := List.mem_map.mp here
    exact each original among
  have names : ((members.map fun member => (LooseText.ofString member.1, member.2)).map
      Prod.fst).Nodup := by
    rw [List.map_map, show Prod.fst ∘ (fun member : String × Json =>
      (LooseText.ofString member.1, member.2)) = LooseText.ofString ∘ Prod.fst from rfl,
      ← List.map_map]
    exact unique.map fun _ _ => LooseText.ofString_injective
  refine @Json.read_written _ _ ['\n'] (Json.cutsAs_object (fun member here => ?_) fun member here =>
    (legible member here).cut) (Json.readsBack_object names fun member here =>
      (legible member here).back) ?_ ?_ rfl
  · obtain ⟨original, _, rfl⟩ := List.mem_map.mp here
    exact ⟨original.1, rfl⟩
  · rw [document, Json.depth]
    exact depthOfMembers_lt (by decide) fun member here => (legible member here).shallow
  · rintro c more same
    rw [← (List.cons.inj same).1]
    rfl

/-! ### What commands print -/

theorem read_closure (closure : Closure) :
    Json.read (jsonText .machine none (closureJson closure)).output = .ok (closureJson closure) := by
  refine @read_document [("script", .text closure.script), ("source_files", .ofTexts closure.sources),
    ("libraries", .ofTexts closure.libraries), ("search_dirs", .ofTexts closure.searchDirs),
    ("dedup_strategy", .text closure.strategy.text)] (by simp) ?_
  simp only [List.forall_mem_cons]
  exact ⟨legible_text _, legible_ofTexts _, legible_ofTexts _, legible_ofTexts _, legible_text _,
    nofun⟩

/-- The object of an error, with its message as it can be read. -/
def errorJson (code input : String) (message : LooseText) : Json :=
  structuredError (.text code) (.text (joined message)) (.text input)

theorem error_machine (code input : String) (message : LooseText) :
    error .machine (.text code) (.text message) (.text input) =
      jsonText .machine none (errorJson code input message) := by
  have same : (structuredError (.text code) (.text message) (.text input)).write .dense =
      (errorJson code input message).write .dense := by
    simp only [errorJson, structuredError, Json.write, Json.writeAt, Json.writeMembers,
      Json.escapeText_joined]
  exact congrArg (fun text => line .machine text) same

theorem read_error (code input : String) (message : LooseText) :
    Json.read (jsonText .machine none (errorJson code input message)).output =
      .ok (errorJson code input message) := by
  have caused : ∀ cause : List (String × Json), (∀ member ∈ cause, Legible member.2) →
      ("status" :: "code" :: "message" :: cause.map Prod.fst).Nodup →
      ∀ document_, document_ = document (("status", .text "error") :: ("code", .text code) ::
        ("message", .text (joined message)) :: cause) →
      Json.read (jsonText .machine none document_).output = .ok document_ := by
    rintro cause legible unique _ rfl
    exact read_document unique (List.forall_mem_cons.mpr ⟨legible_text _, List.forall_mem_cons.mpr
      ⟨legible_text _, List.forall_mem_cons.mpr ⟨legible_joined _, legible⟩⟩⟩)
  rw [errorJson, structuredError]
  split
  · exact caused [("input", .text input)] (List.forall_mem_singleton.mpr (legible_text _))
      (by decide : ["status", "code", "message", "input"].Nodup) _ rfl
  · exact caused [] nofun (by decide) _ rfl

/-- What is said of a script for a machine. -/
def decorationJson (code : String) : Json :=
  let region := Script.markedRegion? code.toList
  .object [("offset", .integer ((region.map fun r => Int.ofNat r.offset).getD (-1))),
    ("length", .integer ((region.map fun r => Int.ofNat r.length).getD 0)),
    ("needs_autoclass", .bool (Script.asksForClass code))]

/-- What is said of a script is read back, if the script is short enough for its length to be. -/
theorem read_decoration {code : String} (short : code.length < 10 ^ Text.maxDigits) :
    Json.read (decorationPrinted .machine code).output = .ok (decorationJson code) := by
  have one : 1 < 10 ^ Text.maxDigits := Nat.one_lt_pow (by decide) (by decide)
  have counted : ∀ n ≤ code.length, Countable (Int.ofNat n) := fun n within =>
    Nat.lt_of_le_of_lt within short
  refine @read_document [("offset", .integer _), ("length", .integer _), ("needs_autoclass", .bool _)]
    (by decide : ["offset", "length", "needs_autoclass"].Nodup) ?_
  simp only [List.forall_mem_cons]
  cases marked : Script.markedRegion? code.toList with
  | none => exact ⟨legible_integer one, legible_integer (counted 0 (Nat.zero_le _)), legible_bool _, nofun⟩
  | some region =>
    obtain ⟨before, within⟩ := Script.markedRegion?_le marked
    rw [String.length_toList] at before within
    exact ⟨legible_integer (counted _ before), legible_integer (counted _ within), legible_bool _,
      nofun⟩

end Console

end ScriptDeps
