import ScriptDeps.Proofs.Failing
import ScriptDeps.Xml.File

/-!
# Encodings that cannot be had

Reading a file as XML tells two things apart: the file is not well-formed, or its XML declaration
names an encoding that does not exist, takes several bytes for some characters or decodes nothing.
The second depends on the declaration alone, whatever follows it.
-/

namespace ScriptDeps.Xml

/-- There is no reading a file in the encoding of that name, well-formed or not. -/
def Unusable (name : List Char) : Prop :=
  ∃ fault, fault ≠ .malformed ∧ declared name = .error fault

/-- The encoding that the XML declaration at the start of a text names. -/
def encodingIn? (text : List Char) : Option (List Char) :=
  (heading? text).bind (·.1.encoding)

/-- The encoding that a file's XML declaration names, read as the file's first bytes tell. -/
def namedEncoding? (bytes : List UInt8) : Option (List Char) :=
  match Family.ofBytes bytes with
  | .bytes mark => encodingIn? ((bytes.drop mark).map fun byte => Char.ofNat byte.toNat)
  | .littleEndian mark => encodingIn? (ofUnits (units false (bytes.drop mark)).1).1
  | .bigEndian mark => encodingIn? (ofUnits (units true (bytes.drop mark)).1).1

section

variable {α β : Type} {fault : Fault}

theorem orMalformed_fails (answer : Option α) : FailsIn (· = Fault.malformed) (orMalformed answer) := by
  cases answer with
  | none => exact failsIn_error rfl
  | some a => exact failsIn_ok a

/-- Past what is read, only a later step can find fault otherwise. -/
theorem orMalformed_bind (other : fault ≠ .malformed) {answer : Option α} {f : α → Except Fault β} :
    orMalformed answer >>= f = .error fault ↔ ∃ a, answer = some a ∧ f a = .error fault := by
  cases answer with
  | none => simpa [orMalformed] using other.symm
  | some a => simp [orMalformed]

theorem bind_of_malformed (other : fault ≠ .malformed) {x : Except Fault α} {f : α → Except Fault β}
    (later : ∀ a, FailsIn (· = Fault.malformed) (f a)) :
    x >>= f = .error fault ↔ x = .error fault := by
  rw [bind_error_iff]
  refine or_iff_left ?_
  rintro ⟨a, _, failed⟩
  exact other (later a fault failed)

end

/-- A named encoding is looked up when the declaration is read, and the default can be had. -/
theorem lookup_error_iff {α : Type} {fault : Fault} (text : List Char)
    (lookup : List Char → Except Fault α) (default : α) :
    (∃ read, heading? text = some read ∧
        (read.1.encoding.map lookup).getD (.ok default) = .error fault) ↔
      ∃ name ∈ encodingIn? text, lookup name = .error fault := by
  simp only [Option.mem_def, encodingIn?, Option.bind_eq_some_iff]
  constructor
  · rintro ⟨read, heads, failed⟩
    cases encoded : read.1.encoding with
    | none => rw [encoded] at failed; cases failed
    | some name =>
      rw [encoded] at failed
      exact ⟨name, ⟨read, heads, encoded⟩, failed⟩
  · rintro ⟨name, ⟨read, heads, encoded⟩, failed⟩
    exact ⟨read, heads, by rw [encoded]; exact failed⟩

theorem byteContent_error_iff {fault : Fault} (other : fault ≠ .malformed) (bytes : List UInt8) :
    byteContent bytes = .error fault ↔
      ∃ name ∈ encodingIn? (bytes.map fun byte => Char.ofNat byte.toNat),
        declared name = .error fault := by
  rw [← lookup_error_iff _ declared Declared.utf8, byteContent, orMalformed_bind other]
  refine exists_congr fun read => and_congr_right fun _ => ?_
  refine bind_of_malformed other fun encoding => ?_
  cases encoding with
  | utf8 =>
    refine (orMalformed_fails _).bind fun chars => ?_
    exact (orMalformed_fails _).bind fun after => failsIn_ok _
  | charset upperHalf =>
    refine (orMalformed_fails _).bind fun chars => ?_
    exact (orMalformed_fails _).bind fun after => failsIn_ok _

/-- In 16-bit units the same names cannot be had: the names that mean those units, and the two that
are never meant, are known in files of bytes. -/
theorem declaredForUnits_error_iff {fault : Fault} (other : fault ≠ .malformed) (bigEndian : Bool)
    (name : List Char) :
    declaredForUnits bigEndian name = .error fault ↔ declared name = .error fault := by
  have foreign : ∀ {α : Type}, (.error .malformed : Except Fault α) ≠ .error fault := fun same =>
    other (Except.error.inj same).symm
  unfold declaredForUnits
  dsimp only
  by_cases own : (String.ofList (name.map Char.toLower) == "utf-16" ||
      String.ofList (name.map Char.toLower) == if bigEndian then "utf-16be" else "utf-16le") = true
  · have known : declared name = .error .malformed := by
      cases bigEndian <;>
        rcases Bool.or_eq_true_iff.mp own with plain | plain <;>
          simp [declared, beq_iff_eq.mp plain]
    rw [if_pos own, known]
    exact iff_of_false nofun foreign
  rw [if_neg own]
  by_cases narrow : (String.ofList (name.map Char.toLower) == "iso-8859-1" ||
      String.ofList (name.map Char.toLower) == "us-ascii") = true
  · have known : ∃ encoding, declared name = .ok encoding := by
      rcases Bool.or_eq_true_iff.mp narrow with plain | plain <;>
        simp [declared, beq_iff_eq.mp plain]
    obtain ⟨encoding, known⟩ := known
    rw [if_pos narrow, known]
    exact iff_of_false foreign nofun
  rw [if_neg narrow]
  cases declared name with
  | error found => simp
  | ok encoding =>
    cases encoding with
    | utf8 => exact iff_of_false foreign nofun
    | charset upperHalf => exact iff_of_false nofun nofun

theorem unitContent_error_iff {fault : Fault} (other : fault ≠ .malformed) (bigEndian : Bool)
    (bytes : List UInt8) :
    unitContent bigEndian bytes = .error fault ↔
      ∃ name ∈ encodingIn? (ofUnits (units bigEndian bytes).1).1, declared name = .error fault := by
  simp only [← declaredForUnits_error_iff other bigEndian]
  rw [← lookup_error_iff _ (declaredForUnits bigEndian) none, unitContent, orMalformed_bind other]
  refine exists_congr fun read => and_congr_right fun _ => ?_
  refine bind_of_malformed other fun encoding => ?_
  cases encoding with
  | none =>
    dsimp only
    split
    · exact failsIn_ok _
    · exact failsIn_error rfl
  | some upperHalf => exact (orMalformed_fails _).bind fun chars => failsIn_ok _

theorem ofBytes_error_iff {fault : Fault} (other : fault ≠ .malformed) (bytes : List UInt8) :
    Content.ofBytes bytes = .error fault ↔
      ∃ name ∈ namedEncoding? bytes, declared name = .error fault := by
  unfold Content.ofBytes namedEncoding?
  cases Family.ofBytes bytes with
  | bytes mark => exact byteContent_error_iff other _
  | littleEndian mark => exact unitContent_error_iff other false _
  | bigEndian mark => exact unitContent_error_iff other true _

/-- A file is refused for its encoding exactly if its declaration names one that cannot be had. -/
theorem read_error_iff {fault : Fault} (other : fault ≠ .malformed) (bytes : ByteArray) :
    read bytes = .error fault ↔
      ∃ name ∈ namedEncoding? bytes.toList, declared name = .error fault := by
  rw [← ofBytes_error_iff other, read]
  refine bind_of_malformed other fun content => ?_
  dsimp only
  split
  · exact failsIn_error rfl
  · exact orMalformed_fails _

theorem read_unusable_iff (bytes : ByteArray) :
    (∃ fault, fault ≠ .malformed ∧ read bytes = .error fault) ↔
      ∃ name ∈ namedEncoding? bytes.toList, Unusable name := by
  constructor
  · rintro ⟨fault, other, failed⟩
    obtain ⟨name, named, unusable⟩ := (read_error_iff other bytes).mp failed
    exact ⟨name, named, fault, other, unusable⟩
  · rintro ⟨name, named, fault, other, unusable⟩
    exact ⟨fault, other, (read_error_iff other bytes).mpr ⟨name, named, unusable⟩⟩

end ScriptDeps.Xml
