import ScriptDeps.Proofs.Running
import ScriptDeps.Assembly.Image
import Mathlib.Algebra.Ring.Nat
import Mathlib.Data.List.Basic

/-!
# Bytes of an image

What stands in an image, byte by byte, and what is read there: a number from its bytes with the low
byte first, a text from its UTF-8 bytes and the zero after them.
-/

namespace ScriptDeps.Assembly

/-- The bytes of a number, the low one first. -/
def littleEndian : (width value : Nat) → List UInt8
  | 0, _ => []
  | width + 1, value => .ofNat value :: littleEndian width (value / 256)

def utf8 (text : String) : List UInt8 :=
  text.toList.flatMap String.utf8EncodeChar

theorem utf8EncodeChar_ne_zero {c : Char} (spoken : c ≠ '\x00') :
    ∀ byte ∈ String.utf8EncodeChar c, byte.toNat ≠ 0 := by
  have code : c.val.toNat ≠ 0 := fun zero => spoken (Char.toNat_inj.mp zero)
  rw [String.utf8EncodeChar]
  split_ifs <;>
    · simp only [List.forall_mem_cons, List.not_mem_nil, false_implies, implies_true, and_true,
        UInt8.toNat_ofNat']
      omega

/-- A zero byte is written for no character but that of code zero. -/
theorem zero_not_mem_utf8 {text : String} (spoken : '\x00' ∉ text.toList) : 0 ∉ utf8 text := by
  intro zero
  obtain ⟨c, member, written⟩ := List.mem_flatMap.mp zero
  exact utf8EncodeChar_ne_zero (fun same => spoken (same ▸ member)) 0 written rfl

namespace Image

variable {image : Image} {offset : Nat}

/-- The bytes stand in the image from the offset on. -/
def Holds (image : Image) (offset : Nat) (bytes : List UInt8) : Prop :=
  ∀ place < bytes.length, image[offset + place]? = bytes[place]?

theorem holds_iff_take {bytes : List UInt8} :
    image.Holds offset bytes ↔ (image.data.toList.drop offset).take bytes.length = bytes := by
  constructor
  · intro held
    refine List.ext_getElem? fun place => ?_
    rw [List.getElem?_take, List.getElem?_drop, Array.getElem?_toList]
    split
    · rename_i inside
      exact held place inside
    · rename_i outside
      exact (List.getElem?_eq_none (Nat.not_lt.mp outside)).symm
  · intro same place inside
    rw [← same, List.getElem?_take_of_lt inside, List.getElem?_drop, Array.getElem?_toList]
    rfl

-- Walks to the offset once, not once for each byte.
instance (offset : Nat) (bytes : List UInt8) : Decidable (image.Holds offset bytes) :=
  decidable_of_iff _ holds_iff_take.symm

/-- A number of so many bytes stands in the image at the offset. -/
def HoldsNumber (image : Image) (offset width value : Nat) : Prop :=
  value < 256 ^ width ∧ image.Holds offset (littleEndian width value)

instance (offset width value : Nat) : Decidable (image.HoldsNumber offset width value) :=
  inferInstanceAs (Decidable (_ ∧ _))

/-- Numbers, each given with its width, stand in the image one after the other. -/
def HoldsNumbers (image : Image) (offset : Nat) : List (Nat × Nat) → Prop
  | [] => True
  | (width, value) :: rest =>
    image.HoldsNumber offset width value ∧ HoldsNumbers image (offset + width) rest

instance : (offset : Nat) → (numbers : List (Nat × Nat)) →
    Decidable (image.HoldsNumbers offset numbers)
  | _, [] => .isTrue trivial
  | offset, (width, value) :: rest =>
    haveI : Decidable (image.HoldsNumbers (offset + width) rest) := instDecidableHoldsNumbers _ rest
    inferInstanceAs (Decidable (image.HoldsNumber offset width value ∧ _))

theorem holds_cons {byte : UInt8} {bytes : List UInt8} :
    image.Holds offset (byte :: bytes) ↔
      image[offset]? = some byte ∧ image.Holds (offset + 1) bytes := by
  constructor
  · intro held
    refine ⟨held 0 (Nat.zero_lt_succ _), fun place inside => ?_⟩
    have next := held (place + 1) (Nat.succ_lt_succ inside)
    rwa [List.getElem?_cons_succ, show offset + (place + 1) = offset + 1 + place by omega] at next
  · rintro ⟨first, held⟩ (_ | place) inside
    · exact first
    · rw [List.getElem?_cons_succ, show offset + (place + 1) = offset + 1 + place by omega]
      exact held place (Nat.lt_of_succ_lt_succ inside)

theorem holdsNumbers_append {left right : List (Nat × Nat)} :
    image.HoldsNumbers offset (left ++ right) ↔
      image.HoldsNumbers offset left ∧
        image.HoldsNumbers (offset + (left.map Prod.fst).sum) right := by
  induction left generalizing offset with
  | nil => simp [HoldsNumbers]
  | cons number rest ih =>
    simp only [List.cons_append, HoldsNumbers, ih, and_assoc, List.map_cons, List.sum_cons,
      Nat.add_assoc]

/-! ### Numbers -/

theorem Holds.byteAt {byte : UInt8} {bytes : List UInt8}
    (held : image.Holds offset (byte :: bytes)) : image.byteAt offset = .ok byte.toNat := by
  rw [Image.byteAt, (holds_cons.mp held).1]

/-- What stands in the image as a number is read as that number. -/
theorem HoldsNumber.numberAt {width value : Nat} (held : image.HoldsNumber offset width value) :
    image.numberAt offset width = .ok value := by
  induction width generalizing offset value with
  | zero =>
    obtain rfl : value = 0 := by simpa using held.1
    rfl
  | succ width ih =>
    obtain ⟨fits, bytes⟩ := held
    have rest : image.numberAt (offset + 1) width = .ok (value / 256) :=
      ih ⟨Nat.div_lt_of_lt_mul (by rwa [Nat.pow_succ'] at fits), (holds_cons.mp bytes).2⟩
    rw [Image.numberAt, bytes.byteAt, ok_bind, rest, ok_bind, UInt8.toNat_ofNat',
      show value % 2 ^ 8 + 256 * (value / 256) = value from Nat.mod_add_div value 256]
    rfl

theorem HoldsNumber.byteAt {value : Nat} (held : image.HoldsNumber offset 1 value) :
    image.byteAt offset = .ok value := by
  obtain ⟨fits, bytes⟩ := held
  rw [bytes.byteAt, UInt8.toNat_ofNat', Nat.mod_eq_of_lt (by simpa using fits)]

theorem hasAt_of_holds {bytes : List UInt8} (held : image.Holds offset bytes) :
    image.hasAt offset (bytes.map (·.toNat)) = true := by
  induction bytes generalizing offset with
  | nil => rfl
  | cons byte rest ih =>
    obtain ⟨first, later⟩ := holds_cons.mp held
    simp [hasAt, first, ih later]

/-! ### Texts -/

theorem zeroWithin_of_holds {bytes : List UInt8} (held : image.Holds offset (bytes ++ [0]))
    (nonzero : 0 ∉ bytes) {count : Nat} (enough : bytes.length < count) :
    image.zeroWithin count offset = .ok (offset + bytes.length) := by
  induction bytes generalizing offset count with
  | nil =>
    obtain ⟨count, rfl⟩ := Nat.exists_eq_succ_of_ne_zero (Nat.ne_of_gt enough)
    simp [zeroWithin, (holds_cons.mp held).1]
  | cons byte rest ih =>
    obtain ⟨count, rfl⟩ := Nat.exists_eq_succ_of_ne_zero (Nat.ne_of_gt (Nat.zero_lt_of_lt enough))
    obtain ⟨first, later⟩ := holds_cons.mp held
    obtain ⟨byteNonzero, restNonzero⟩ := not_or.mp (mt List.mem_cons.mpr nonzero)
    have found := ih later restNonzero (Nat.lt_of_succ_lt_succ enough)
    simp [zeroWithin, first, Ne.symm byteNonzero, found, Nat.add_assoc, Nat.add_comm 1]

theorem Holds.lt_size {byte : UInt8} {bytes : List UInt8}
    (held : image.Holds offset (byte :: bytes)) : offset < image.size :=
  (getElem?_eq_some_iff.mp (holds_cons.mp held).1).1

theorem holds_append {left right : List UInt8} :
    image.Holds offset (left ++ right) ↔
      image.Holds offset left ∧ image.Holds (offset + left.length) right := by
  induction left generalizing offset with
  | nil => simp [Holds]
  | cons byte rest ih =>
    simp only [List.cons_append, holds_cons, ih, and_assoc, List.length_cons, Nat.add_assoc,
      Nat.add_comm 1]

theorem zeroAfter_of_holds {bytes : List UInt8} (held : image.Holds offset (bytes ++ [0]))
    (nonzero : 0 ∉ bytes) : image.zeroAfter offset = .ok (offset + bytes.length) := by
  have inside := (holds_append.mp held).2.lt_size
  exact zeroWithin_of_holds held nonzero (by omega)

theorem extract_of_holds {bytes : List UInt8} (held : image.Holds offset bytes) :
    image.extract offset (offset + bytes.length) = bytes.toByteArray := by
  have data : bytes.toByteArray.data = bytes.toArray :=
    Array.toList_inj.mp List.toList_data_toByteArray
  refine ByteArray.ext (Array.ext_getElem? fun place => ?_)
  rw [ByteArray.data_extract, Array.getElem?_extract, data,
    show bytes.toArray[place]? = bytes[place]? from List.getElem?_toArray]
  by_cases inside : place < bytes.length
  · have same : image[offset + place]? = bytes[place]? := held place inside
    have within : offset + place < image.size :=
      (getElem?_eq_some_iff.mp (same.trans (List.getElem?_eq_getElem inside))).1
    rw [if_pos (by change place < min _ image.size - _; omega)]
    exact same
  · rw [if_neg (by omega), List.getElem?_eq_none (Nat.not_lt.mp inside)]

theorem textAt_of_holds {text : String} (held : image.Holds offset (utf8 text ++ [0]))
    (spoken : '\x00' ∉ text.toList) : image.textAt offset = .ok text := by
  have bytes : (utf8 text).toByteArray = text.toByteArray := String.utf8Encode_toList
  rw [textAt, zeroAfter_of_holds held (zero_not_mem_utf8 spoken), ok_bind,
    extract_of_holds (holds_append.mp held).1, bytes, String.fromUTF8?, dif_pos text.isValidUTF8]
  rfl

end Image

end ScriptDeps.Assembly
