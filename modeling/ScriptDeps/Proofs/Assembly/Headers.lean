import ScriptDeps.Proofs.Assembly.Standard
import ScriptDeps.Assembly.Name
import Mathlib.Data.List.Nodup

/-!
# Reading headers

What is read where the headers of sections and of streams stand, and which stream has a name.
-/

namespace ScriptDeps.Assembly

open Standard

variable {image : Image} {offset : Nat}

theorem Image.HoldsNumber.long {value : Nat} (held : image.HoldsNumber offset 4 value) :
    image.long offset = .ok value :=
  held.numberAt

theorem Image.HoldsNumber.word {value : Nat} (held : image.HoldsNumber offset 2 value) :
    image.word offset = .ok value :=
  held.numberAt

/-! ### Sections -/

def Section.ofHeader (header : SectionHeader) : Section :=
  ⟨header.virtualAddress, header.virtualSize, header.rawPointer, header.rawSize⟩

theorem offsetOf_of_maps {sections : List SectionHeader} {address : Nat}
    (maps : Maps sections address offset) :
    offsetOf (sections.map .ofHeader) address = .ok offset := by
  obtain ⟨before, s, after, split, earlier, covers, rfl⟩ := maps
  have first : sections.find? (fun header => decide (header.Covers address)) = some s :=
    List.find?_eq_some_iff_append.mpr
      ⟨decide_eq_true covers, before, after, split, fun header member => by
        simpa using earlier header member⟩
  have covering : (fun s : Section => decide (s.address ≤ address) &&
      decide (address < s.address + max s.size s.fileSize)) ∘ Section.ofHeader =
        fun header => decide (header.Covers address) := by
    funext header
    rw [Bool.eq_iff_iff]
    simp only [Function.comp_apply, Bool.and_eq_true, decide_eq_true_eq]
    exact Iff.rfl
  rw [offsetOf, List.find?_map, covering, first]
  simp [Section.ofHeader, Nat.add_comm]

theorem sectionAt_of_numbers {header : SectionHeader}
    (held : image.HoldsNumbers (offset + 8) header.numbers) :
    image.sectionAt offset = .ok (.ofHeader header) := by
  obtain ⟨size, address, fileSize, start, _⟩ := held
  rw [Image.sectionAt, size.long, ok_bind, address.long, ok_bind, fileSize.long, ok_bind,
    start.long]
  rfl

theorem sectionsAt_of_numbers {sections : List SectionHeader}
    (held : ∀ (place : Nat) (inside : place < sections.length),
      image.HoldsNumbers (offset + place * 40 + 8) sections[place].numbers) :
    image.sectionsAt offset sections.length = .ok (sections.map .ofHeader) := by
  induction sections generalizing offset with
  | nil => rfl
  | cons header rest ih =>
    have first : image.HoldsNumbers (offset + 8) header.numbers := by
      simpa using held 0 (Nat.zero_lt_succ _)
    have later : image.sectionsAt (offset + 40) rest.length = .ok (rest.map .ofHeader) := by
      refine ih fun place inside => ?_
      rw [show offset + 40 + place * 40 + 8 = offset + (place + 1) * 40 + 8 by omega]
      exact held (place + 1) (Nat.succ_lt_succ inside)
    rw [List.length_cons, Image.sectionsAt, sectionAt_of_numbers first, ok_bind, later]
    rfl

/-! ### The metadata -/

theorem directoriesAt_of_magic {kind : OptionalHeader}
    (held : image.HoldsNumber offset 2 kind.magic) :
    image.directoriesAt offset = .ok (offset + kind.directories) := by
  rw [Image.directoriesAt, held.word, ok_bind]
  cases kind <;> rfl

/-! ### The streams -/

/-- The name of a stream and where it is, in metadata that starts at an offset. -/
def Standard.StreamHeader.placed (root : Nat) (header : StreamHeader) : String × Nat :=
  (header.name, root + header.offset)

theorem stream?_placed (root : Nat) (headers : List StreamHeader) (name : String) :
    stream? (headers.map (·.placed root)) name =
      (headers.reverse.find? (·.name == name)).map (root + ·.offset) := by
  rw [stream?, ← List.map_reverse, List.find?_map, Option.map_map]
  rfl

theorem stream?_of_mem (root : Nat) {headers : List StreamHeader}
    (distinct : (headers.map (·.name)).Nodup) {header : StreamHeader} (member : header ∈ headers) :
    stream? (headers.map (·.placed root)) header.name = some (root + header.offset) := by
  have only : ∀ other ∈ headers.reverse, other.name = header.name → other = header :=
    fun other otherMember same =>
      List.inj_on_of_nodup_map distinct (List.mem_reverse.mp otherMember) member same
  obtain ⟨other, found⟩ : ∃ other, headers.reverse.find? (·.name == header.name) = some other :=
    Option.isSome_iff_exists.mp (List.find?_isSome.mpr
      ⟨header, List.mem_reverse.mpr member, beq_self_eq_true _⟩)
  have named := List.find?_some found
  obtain rfl := only other (List.mem_of_find?_eq_some found) (by simpa using named)
  rw [stream?_placed, found]
  rfl

theorem stream?_of_notMem (root : Nat) {headers : List StreamHeader} {name : String}
    (missing : name ∉ headers.map (·.name)) :
    stream? (headers.map (·.placed root)) name = none := by
  have unfound : headers.reverse.find? (·.name == name) = none := by
    simp only [List.find?_eq_none, List.mem_reverse, beq_iff_eq]
    exact fun header member same => missing (List.mem_map.mpr ⟨header, member, same⟩)
  rw [stream?_placed, unfound]
  rfl

end ScriptDeps.Assembly
