import ScriptDeps.Proofs.Assembly.Headers

/-!
# What the readers accept

Each reader of an image returns a value exactly if the bytes of that value stand where it reads:
from numbers and texts up to the headers and the streams.
-/

namespace ScriptDeps.Assembly

namespace Image

variable {image : Image} {offset : Nat}

/-! ### Numbers -/

theorem byteAt_ok_iff {value : Nat} :
    image.byteAt offset = .ok value ↔ image.HoldsNumber offset 1 value := by
  constructor
  · intro read
    unfold byteAt at read
    split at read
    · rename_i byte there
      obtain rfl := Except.ok.inj read
      refine ⟨by have := byte.toNat_lt; omega, ?_⟩
      rw [littleEndian, littleEndian, UInt8.ofNat_toNat]
      exact holds_cons.mpr ⟨there, nofun⟩
    · cases read
  · exact HoldsNumber.byteAt

theorem numberAt_ok_iff {width value : Nat} :
    image.numberAt offset width = .ok value ↔ image.HoldsNumber offset width value := by
  refine ⟨fun read => ?_, HoldsNumber.numberAt⟩
  induction width generalizing offset value with
  | zero =>
    obtain rfl := Except.ok.inj read
    exact ⟨Nat.one_pos, nofun⟩
  | succ width ih =>
    obtain ⟨low, first, read⟩ := bind_ok read
    obtain ⟨high, later, made⟩ := bind_ok read
    obtain rfl := pure_ok made
    obtain ⟨small, lowHeld⟩ := byteAt_ok_iff.mp first
    obtain ⟨fits, highHeld⟩ := ih later
    have byte : UInt8.ofNat (low + 256 * high) = UInt8.ofNat low := by
      apply UInt8.toNat_inj.mp
      simp only [UInt8.toNat_ofNat']
      omega
    refine ⟨?_, ?_⟩
    · rw [Nat.pow_succ]
      omega
    · rw [littleEndian, byte, show (low + 256 * high) / 256 = high by omega]
      exact holds_cons.mpr ⟨(holds_cons.mp lowHeld).1, highHeld⟩

theorem HoldsNumber.unique {width a b : Nat} (first : image.HoldsNumber offset width a)
    (second : image.HoldsNumber offset width b) : a = b :=
  Except.ok.inj (first.numberAt.symm.trans second.numberAt)

theorem hasAt_iff {bytes : List UInt8} :
    image.hasAt offset (bytes.map (·.toNat)) = true ↔ image.Holds offset bytes := by
  refine ⟨fun has => ?_, hasAt_of_holds⟩
  induction bytes generalizing offset with
  | nil => exact nofun
  | cons byte rest ih =>
    rw [List.map_cons, hasAt, Bool.and_eq_true, Option.any_eq_true] at has
    obtain ⟨⟨found, there, same⟩, later⟩ := has
    obtain rfl : found = byte := UInt8.toNat_inj.mp (by simpa using same)
    exact holds_cons.mpr ⟨there, ih later⟩

/-! ### Texts -/

theorem zeroWithin_ok {count stop : Nat} (found : image.zeroWithin count offset = .ok stop) :
    ∃ bytes, image.Holds offset (bytes ++ [0]) ∧ 0 ∉ bytes ∧ stop = offset + bytes.length := by
  induction count generalizing offset with
  | zero => cases found
  | succ count ih =>
    unfold zeroWithin at found
    split at found
    · cases found
    · rename_i byte there
      split at found
      · rename_i zero
        obtain rfl := eq_of_beq zero
        obtain rfl := Except.ok.inj found
        exact ⟨[], holds_cons.mpr ⟨there, nofun⟩, List.not_mem_nil, rfl⟩
      · rename_i nonzero
        obtain ⟨bytes, held, none, rfl⟩ := ih found
        refine ⟨byte :: bytes, holds_cons.mpr ⟨there, held⟩, ?_, ?_⟩
        · simpa [none] using Ne.symm (by simpa using nonzero)
        · rw [List.length_cons]
          omega

theorem textAt_ok_iff {text : String} :
    image.textAt offset = .ok text ↔ Standard.HeapString image offset text := by
  constructor
  · intro read
    obtain ⟨stop, found, read⟩ := bind_ok read
    obtain ⟨bytes, held, none, rfl⟩ := zeroWithin_ok found
    rw [extract_of_holds (holds_append.mp held).1] at read
    split at read
    · rename_i decoded valid
      obtain rfl := pure_ok read
      have encoded : bytes.toByteArray = text.toByteArray := by
        unfold String.fromUTF8? at valid
        split at valid
        · rw [← Option.some.inj valid]
          rfl
        · cases valid
      have same : bytes = utf8 text := by
        have written : (utf8 text).toByteArray = text.toByteArray := String.utf8Encode_toList
        rw [← List.toList_data_toByteArray (l := bytes), encoded, ← written,
          List.toList_data_toByteArray]
      rw [same] at held none
      refine ⟨fun null => none ?_, held⟩
      exact List.mem_flatMap.mpr ⟨'\x00', null, by decide⟩
    · cases read
  · rintro ⟨spoken, held⟩
    exact textAt_of_holds held spoken

end Image

open Standard

variable {image : Image} {offset : Nat}

/-! ### Sections -/

theorem sectionAt_ok_iff {header : SectionHeader} :
    image.sectionAt offset = .ok (.ofHeader header) ↔
      image.HoldsNumbers (offset + 8) header.numbers := by
  constructor
  · intro read
    obtain ⟨size, sizeRead, read⟩ := bind_ok read
    obtain ⟨address, addressRead, read⟩ := bind_ok read
    obtain ⟨fileSize, fileSizeRead, read⟩ := bind_ok read
    obtain ⟨start, startRead, made⟩ := bind_ok read
    cases pure_ok made
    exact ⟨Image.numberAt_ok_iff.mp sizeRead, Image.numberAt_ok_iff.mp addressRead,
      Image.numberAt_ok_iff.mp fileSizeRead, Image.numberAt_ok_iff.mp startRead, trivial⟩
  · exact sectionAt_of_numbers

theorem sectionsAt_ok {count : Nat} {sections : List Section}
    (read : image.sectionsAt offset count = .ok sections) :
    ∃ headers : List SectionHeader, headers.length = count ∧ sections = headers.map .ofHeader ∧
      ∀ (place : Nat) (inside : place < headers.length),
        image.HoldsNumbers (offset + place * 40 + 8) headers[place].numbers := by
  induction count generalizing offset sections with
  | zero =>
    obtain rfl := Except.ok.inj read
    exact ⟨[], rfl, rfl, nofun⟩
  | succ count ih =>
    obtain ⟨first, one, read⟩ := bind_ok read
    obtain ⟨others, later, made⟩ := bind_ok read
    obtain rfl := pure_ok made
    obtain ⟨headers, rfl, rfl, held⟩ := ih later
    refine ⟨⟨first.size, first.address, first.fileSize, first.offset⟩ :: headers, rfl, rfl, ?_⟩
    rintro (_ | place) inside
    · rw [Nat.zero_mul, Nat.add_zero]
      exact sectionAt_ok_iff.mp one
    · rw [show offset + (place + 1) * 40 + 8 = offset + 40 + place * 40 + 8 by omega]
      exact held place (Nat.lt_of_succ_lt_succ inside)

theorem covers_iff {header : SectionHeader} {address : Nat} :
    (decide ((Section.ofHeader header).address ≤ address) &&
      decide (address < (Section.ofHeader header).address +
        max (Section.ofHeader header).size (Section.ofHeader header).fileSize)) = true ↔
      header.Covers address := by
  rw [Bool.and_eq_true, decide_eq_true_eq, decide_eq_true_eq]
  exact Iff.rfl

theorem offsetOf_ok_iff {sections : List SectionHeader} {address : Nat} :
    offsetOf (sections.map .ofHeader) address = .ok offset ↔ Maps sections address offset := by
  refine ⟨fun found => ?_, offsetOf_of_maps⟩
  unfold offsetOf at found
  split at found
  · rename_i s first
    obtain rfl := Except.ok.inj found
    obtain ⟨covers, before, after, whole, earlier⟩ := List.find?_eq_some_iff_append.mp first
    obtain ⟨headersBefore, headersFrom, rfl, rfl, rest⟩ := List.map_eq_append_iff.mp whole
    obtain ⟨header, headersAfter, rfl, rfl, rfl⟩ := List.map_eq_cons_iff.mp rest
    refine ⟨headersBefore, header, headersAfter, rfl, ?_, ?_, ?_⟩
    · intro other member covered
      have missed := earlier (.ofHeader other) (List.mem_map_of_mem member)
      rw [covers_iff.mpr covered] at missed
      cases missed
    · exact covers_iff.mp covers
    · exact Nat.add_comm _ _
  · cases found

/-! ### The metadata -/

theorem directoriesAt_ok {directories : Nat} (read : image.directoriesAt offset = .ok directories) :
    ∃ kind : OptionalHeader, image.HoldsNumber offset 2 kind.magic ∧
      directories = offset + kind.directories := by
  obtain ⟨magic, magicRead, read⟩ := bind_ok read
  have held := Image.numberAt_ok_iff.mp magicRead
  split at read
  · rename_i same
    subst same
    exact ⟨.pe32, held, pure_ok read⟩
  · split at read
    · rename_i same
      subst same
      exact ⟨.pe32Plus, held, pure_ok read⟩
    · cases read

/-- The headers of an image lead to its metadata: their mark, the CLI header in a section and the
address that stands in it, in a section again. -/
structure LeadsTo (image : Image) (headers : Headers) (cli rootAddress root : Nat) : Prop where
  headersAt : headers.At image
  cliMapped : Maps headers.sections headers.cliAddress cli
  rootHeld : image.HoldsNumber (cli + 8) 4 rootAddress
  rootMapped : Maps headers.sections rootAddress root

theorem metadataOffset_ok_iff {root : Nat} :
    image.metadataOffset = .ok root ↔ ∃ headers cli rootAddress,
      LeadsTo image headers cli rootAddress root := by
  constructor
  · intro read
    unfold Image.metadataOffset at read
    split at read
    · cases read
    rename_i executable
    obtain ⟨start, startRead, read⟩ := bind_ok read
    split at read
    · cases read
    rename_i imageMark
    obtain ⟨sectionCount, countRead, read⟩ := bind_ok read
    obtain ⟨optionalSize, sizeRead, read⟩ := bind_ok read
    obtain ⟨directories, directoriesRead, read⟩ := bind_ok read
    obtain ⟨kind, magic, rfl⟩ := directoriesAt_ok directoriesRead
    obtain ⟨address, addressRead, read⟩ := bind_ok read
    split at read
    · cases read
    rename_i managed
    obtain ⟨sections, sectionsRead, read⟩ := bind_ok read
    obtain ⟨sectionHeaders, rfl, rfl, sectionsHeld⟩ := sectionsAt_ok sectionsRead
    obtain ⟨cli, cliFound, read⟩ := bind_ok read
    obtain ⟨rootAddress, rootRead, found⟩ := bind_ok read
    refine ⟨⟨start, kind, optionalSize, sectionHeaders, address⟩, cli, rootAddress, ?_⟩
    refine ⟨⟨?_, Image.numberAt_ok_iff.mp startRead, ?_, Image.numberAt_ok_iff.mp countRead,
      Image.numberAt_ok_iff.mp sizeRead, magic, Image.numberAt_ok_iff.mp addressRead, managed,
      sectionsHeld⟩, offsetOf_ok_iff.mp cliFound, Image.numberAt_ok_iff.mp rootRead,
      offsetOf_ok_iff.mp found⟩
    · exact Image.hasAt_iff.mp (by simpa using executable)
    · exact Image.hasAt_iff.mp (by simpa using imageMark)
  · rintro ⟨headers, cli, rootAddress, laid⟩
    have own := laid.headersAt
    have executable : image.hasAt 0 [0x4D, 0x5A] = true := Image.hasAt_of_holds own.executableMark
    have imageMark : image.hasAt headers.start [0x50, 0x45, 0, 0] = true :=
      Image.hasAt_of_holds own.imageMark
    have sections := sectionsAt_of_numbers own.sections
    unfold Image.metadataOffset
    simp only [executable, imageMark, own.start.long, own.sectionCount.word, own.optionalSize.word,
      directoriesAt_of_magic own.magic, own.cliAddress.long, sections,
      offsetOf_of_maps laid.cliMapped, laid.rootHeld.long, offsetOf_of_maps laid.rootMapped,
      ok_bind, Bool.not_true, Bool.false_eq_true, if_false, own.managed]

/-! ### The streams -/

namespace Standard

instance (text : String) : Decidable (HeapString image offset text) :=
  inferInstanceAs (Decidable (_ ∧ _))

namespace StreamHeader

/-- The headers stand in the image one after the other. What fills a name up to the next multiple of
four bytes does not matter. -/
def Follow (image : Image) (start : Nat) : List StreamHeader → Prop
  | [] => True
  | header :: rest =>
    image.HoldsNumbers start [(4, header.offset), (4, header.size)] ∧
      HeapString image (start + 8) header.name ∧ (∀ c ∈ header.name.toList, c.toNat < 128) ∧
      Follow image (start + 8 + header.nameBytes.length) rest

instance : (start : Nat) → (headers : List StreamHeader) → Decidable (Follow image start headers)
  | _, [] => .isTrue trivial
  | start, header :: rest =>
    haveI : Decidable (∀ c ∈ header.name.toList, c.toNat < 128) := List.decidableBAll _ _
    haveI : Decidable (Follow image (start + 8 + header.nameBytes.length) rest) :=
      instDecidableFollow _ rest
    inferInstanceAs (Decidable (image.HoldsNumbers start _ ∧ HeapString image (start + 8) _ ∧ _))

theorem length_nameBytes (header : StreamHeader) :
    header.nameBytes.length = ((utf8 header.name).length + 4) / 4 * 4 := by
  rw [nameBytes, List.length_append, List.length_replicate]
  omega

theorem Follow.unique {start : Nat} {a b : List StreamHeader} (first : Follow image start a)
    (second : Follow image start b) (same : a.length = b.length) : a = b := by
  induction a generalizing start b with
  | nil => exact (List.length_eq_zero_iff.mp same.symm).symm
  | cons x a ih =>
    obtain ⟨y, b, rfl⟩ := List.exists_cons_of_length_eq_add_one same.symm
    obtain ⟨⟨offset, size, _⟩, name, _, rest⟩ := first
    obtain ⟨⟨otherOffset, otherSize, _⟩, otherName, _, otherRest⟩ := second
    have named : x.name = y.name :=
      Except.ok.inj ((Image.textAt_ok_iff.mpr name).symm.trans (Image.textAt_ok_iff.mpr otherName))
    have equal : x = y := by
      cases x
      cases y
      simp only [mk.injEq]
      exact ⟨offset.unique otherOffset, size.unique otherSize, named⟩
    subst equal
    rw [ih rest otherRest (Nat.succ.inj same)]

theorem AllAt.follow {start : Nat} {headers : List StreamHeader} (held : AllAt image start headers)
    (ascii : ∀ header ∈ headers, ∀ c ∈ header.name.toList, c ≠ '\x00' ∧ c.toNat < 128) :
    Follow image start headers := by
  induction headers generalizing start with
  | nil => exact trivial
  | cons header rest ih =>
    obtain ⟨numbers, nameHeld, later⟩ := held
    obtain ⟨own, others⟩ := List.forall_mem_cons.mp ascii
    have ended : image.Holds (start + 8) (utf8 header.name ++ [0]) := by
      have zeros : List.replicate (4 - (utf8 header.name).length % 4) (0 : UInt8) =
          [0] ++ List.replicate (3 - (utf8 header.name).length % 4) 0 := by
        rw [show 4 - (utf8 header.name).length % 4 = 1 + (3 - (utf8 header.name).length % 4) by omega,
          List.replicate_add]
        rfl
      rw [nameBytes, zeros, ← List.append_assoc] at nameHeld
      exact (Image.holds_append.mp nameHeld).1
    exact ⟨numbers, ⟨fun null => (own _ null).1 rfl, ended⟩, fun c member => (own c member).2,
      ih later others⟩

end StreamHeader

end Standard

theorem streamsAt_ok_iff {root count : Nat} {streams : List (String × Nat)} :
    image.streamsAt root offset count = .ok streams ↔ ∃ headers : List StreamHeader,
      headers.length = count ∧ StreamHeader.Follow image offset headers ∧
        streams = headers.map (·.placed root) := by
  induction count generalizing offset streams with
  | zero =>
    constructor
    · intro read
      exact ⟨[], rfl, trivial, (Except.ok.inj read).symm⟩
    · rintro ⟨headers, none, -, rfl⟩
      rw [List.length_eq_zero_iff.mp none]
      rfl
  | succ count ih =>
    constructor
    · intro read
      obtain ⟨start, startRead, read⟩ := bind_ok read
      obtain ⟨size, sizeRead, read⟩ := bind_ok read
      obtain ⟨stop, stopFound, read⟩ := bind_ok read
      obtain ⟨name, nameRead, read⟩ := bind_ok read
      split at read
      · cases read
      rename_i ascii
      obtain ⟨others, later, made⟩ := bind_ok read
      obtain rfl := pure_ok made
      obtain ⟨spoken, held⟩ := Image.textAt_ok_iff.mp nameRead
      have ended := Image.zeroAfter_of_holds held (zero_not_mem_utf8 spoken)
      obtain rfl := Except.ok.inj (stopFound.symm.trans ended)
      obtain ⟨headers, rfl, followed, rfl⟩ := ih.mp later
      refine ⟨⟨start, size, name⟩ :: headers, rfl, ⟨⟨Image.numberAt_ok_iff.mp startRead,
        Image.numberAt_ok_iff.mp sizeRead, trivial⟩, ⟨spoken, held⟩, by simpa using ascii, ?_⟩, rfl⟩
      rw [StreamHeader.length_nameBytes]
      simpa [Nat.add_sub_cancel_left] using followed
    · rintro ⟨headers, long, followed, rfl⟩
      obtain ⟨header, headers, rfl⟩ := List.exists_cons_of_length_eq_add_one long
      obtain ⟨⟨start, size, -⟩, name, ascii, followed⟩ := followed
      have stop := Image.zeroAfter_of_holds name.2 (zero_not_mem_utf8 name.1)
      have text := Image.textAt_ok_iff.mpr name
      have allAscii : header.name.toList.all (·.toNat < 128) = true := by simpa using ascii
      have later : image.streamsAt root (offset + 8 +
          (offset + 8 + (utf8 header.name).length - (offset + 8) + 4) / 4 * 4) count =
          .ok (headers.map (·.placed root)) := by
        rw [Nat.add_sub_cancel_left, ← StreamHeader.length_nameBytes]
        exact ih.mpr ⟨headers, Nat.succ.inj long, followed, rfl⟩
      unfold Image.streamsAt
      simp only [start.long, size.long, stop, text, allAscii, later, ok_bind]
      rfl

/-- The metadata root stands in the image, with the headers of its streams after it. -/
structure Standard.Root.Readable (root : Root) (image : Image) (start : Nat) : Prop where
  signature : image.HoldsNumber start 4 0x424A5342
  versionLength : image.HoldsNumber (start + 12) 4 root.versionLength
  streamCount : image.HoldsNumber (start + 16 + root.versionLength + 2) 2 root.streams.length
  streams : StreamHeader.Follow image (start + 16 + root.versionLength + 4) root.streams

theorem Standard.Root.At.readable {root : Root} {start : Nat} (laid : root.At image start) :
    root.Readable image start :=
  ⟨laid.signature, laid.versionLength, laid.streamCount, laid.streams.follow laid.ascii⟩

theorem Standard.Root.Readable.unique {a b : Root} {start : Nat} (first : a.Readable image start)
    (second : b.Readable image start) : a = b := by
  obtain ⟨length, streams⟩ := a
  obtain ⟨otherLength, otherStreams⟩ := b
  obtain rfl : length = otherLength := first.versionLength.unique second.versionLength
  have counted := first.streamCount.unique second.streamCount
  exact congrArg (Root.mk length) (first.streams.unique second.streams counted)

theorem streams_ok_iff {start : Nat} {streams : List (String × Nat)} :
    image.streams start = .ok streams ↔ ∃ root : Root, root.Readable image start ∧
      streams = root.streams.map (·.placed start) := by
  constructor
  · intro read
    obtain ⟨signature, signatureRead, read⟩ := bind_ok read
    split at read
    · cases read
    rename_i signed
    obtain ⟨versionLength, lengthRead, read⟩ := bind_ok read
    obtain ⟨count, countRead, read⟩ := bind_ok read
    obtain ⟨headers, rfl, followed, rfl⟩ := streamsAt_ok_iff.mp read
    obtain rfl : signature = 0x424A5342 := by simpa using signed
    exact ⟨⟨versionLength, headers⟩, ⟨Image.numberAt_ok_iff.mp signatureRead,
      Image.numberAt_ok_iff.mp lengthRead, Image.numberAt_ok_iff.mp countRead, followed⟩, rfl⟩
  · rintro ⟨root, readable, rfl⟩
    rw [Image.streams, readable.signature.long, ok_bind, if_neg (by decide)]
    simp only [readable.versionLength.long, readable.streamCount.word, ok_bind]
    exact streamsAt_ok_iff.mpr ⟨root.streams, rfl, readable.streams, rfl⟩

/-! ### Row counts -/

theorem HoldsNumbers.unique_counts {numbers : List Nat} {a b : Nat → Nat}
    (first : image.HoldsNumbers offset (numbers.map fun number => (4, a number)))
    (second : image.HoldsNumbers offset (numbers.map fun number => (4, b number))) :
    ∀ number ∈ numbers, a number = b number := by
  induction numbers generalizing offset with
  | nil => exact nofun
  | cons number rest ih =>
    exact List.forall_mem_cons.mpr ⟨first.1.unique second.1, ih first.2 second.2⟩

theorem rowCounts_ok {valid table count : Nat} {rows : List Nat}
    (read : image.rowCounts valid table offset count = .ok rows) : ∃ rowCount : Nat → Nat,
      (∀ number, valid.testBit number = false → rowCount number = 0) ∧
        image.HoldsNumbers offset (((List.range' table count).filter valid.testBit).map
          fun number => (4, rowCount number)) ∧
        rows = (List.range' table count).map rowCount := by
  induction count generalizing offset table rows with
  | zero =>
    obtain rfl := Except.ok.inj read
    exact ⟨fun _ => 0, fun _ _ => rfl, trivial, rfl⟩
  | succ count ih =>
    unfold Image.rowCounts at read
    split at read
    · rename_i present
      obtain ⟨own, ownRead, read⟩ := bind_ok read
      obtain ⟨others, later, made⟩ := bind_ok read
      obtain rfl := pure_ok made
      obtain ⟨rowCount, absent, held, rfl⟩ := ih later
      obtain ⟨counts, here, elsewhere⟩ : ∃ counts : Nat → Nat, counts table = own ∧
          ∀ number, number ≠ table → counts number = rowCount number :=
        ⟨Function.update rowCount table own, Function.update_self .., fun number other =>
          Function.update_of_ne other ..⟩
      -- the tables that are counted later have greater numbers than this one
      have kept : ∀ number ∈ List.range' (table + 1) count, counts number = rowCount number := by
        intro number member
        have after := (List.mem_range'_1.mp member).1
        exact elsewhere number (by omega)
      refine ⟨counts, ?_, ?_, ?_⟩
      · intro number none
        have other : number ≠ table := by
          intro same
          rw [same, present] at none
          cases none
        rw [elsewhere number other, absent number none]
      · rw [List.range'_succ, List.filter_cons_of_pos present, List.map_cons, here]
        refine ⟨Image.numberAt_ok_iff.mp ownRead, ?_⟩
        rwa [List.map_congr_left fun number member => by
          rw [kept number (List.mem_filter.mp member).1]]
      · rw [List.range'_succ, List.map_cons, here, List.map_congr_left kept]
    · rename_i none
      obtain ⟨others, later, made⟩ := bind_ok read
      obtain rfl := pure_ok made
      obtain ⟨rowCount, absent, held, rfl⟩ := ih later
      refine ⟨rowCount, absent, ?_, ?_⟩
      · rwa [List.range'_succ, List.filter_cons_of_neg none]
      · rw [List.range'_succ, List.map_cons, absent table (by simpa using none)]

end ScriptDeps.Assembly
