import ScriptDeps.Text.Utf8
import ScriptDeps.Xml.Document
import ScriptDeps.Xml.Encoding

/-!
# XML files

A file may begin with an XML declaration, which names the encoding of what follows and may say
that the document stands alone. The encoding is judged as soon as the declaration is read; only
then can anything else in the file be wrong.
-/

namespace ScriptDeps.Xml

/-! ### The XML declaration -/

/-- Whether the character may stand in the value of an XML declaration. -/
def isDeclarationChar (c : Char) : Bool :=
  c.isAlphanum || c == '.' || c == '-' || c == '_'

/-- The value that a name is given in an XML declaration, and what follows it. -/
def setting? (name text : List Char) : Option (List Char × List Char) := do
  guard (text.head?.any isSpace)
  let rest ← after? name (dropSpace text)
  let (value, rest) ← literal? (dropSpace (← after? ['='] (dropSpace rest)))
  guard (value.all isDeclarationChar)
  return (value, rest)

/-- What an XML declaration says. -/
structure Heading where
  /-- The name of the encoding. -/
  encoding : Option (List Char)
  /-- Whether the document stands alone. -/
  standalone : Bool

/-- The XML declaration at the start of a text, and what follows it. A text without one is left as
it is. -/
def heading? (text : List Char) : Option (Heading × List Char) :=
  match after? "<?xml".toList text with
  | none => some (⟨none, false⟩, text)
  | some rest =>
    if !rest.head?.any isSpace then some (⟨none, false⟩, text)
    else do
      let (_, rest) ← setting? "version".toList rest
      let (encoding, rest) := match setting? "encoding".toList rest with
        | some (value, rest) => (some value, rest)
        | none => (none, rest)
      guard (encoding.all fun name => name.head?.any Char.isAlpha)
      let (standalone, rest) := match setting? "standalone".toList rest with
        | some (value, rest) => (some value, rest)
        | none => (none, rest)
      guard (standalone.all fun value => value = "yes".toList || value = "no".toList)
      return (⟨encoding, standalone = some "yes".toList⟩, ← after? ['?', '>'] (dropSpace rest))

/-! ### The characters of a file -/

/-- A step that has no answer for files that are not well-formed. -/
def orMalformed {α : Type} : Option α → Except Fault α
  | some a => .ok a
  | none => .error .malformed

/-- The characters of a file after its XML declaration, what that says, and which letters its names
may have. -/
structure Content where
  heading : Heading
  text : List Char
  alphabet : Alphabet

/-- The content of a file of one byte a unit. -/
def byteContent (bytes : List UInt8) : Except Fault Content := do
  let (heading, _) ← orMalformed (heading? (bytes.map fun byte => Char.ofNat byte.toNat))
  let chars ← match ← (heading.encoding.map declared).getD (.ok .utf8) with
    | .utf8 => orMalformed ((String.fromUTF8? ⟨bytes.toArray⟩).map String.toList)
    | .charset upperHalf => orMalformed (bytes.mapM (charOf? upperHalf))
  let (_, text) ← orMalformed (heading? chars)
  let isLatin := heading.encoding.any fun name => name.map Char.toLower = "iso-8859-1".toList
  return ⟨heading, text, if isLatin then .extended else .standard⟩

def unitContent (bigEndian : Bool) (bytes : List UInt8) : Except Fault Content := do
  let (units, noneLeft) := units bigEndian bytes
  let (chars, isWhole) := ofUnits units
  let (heading, text) ← orMalformed (heading? chars)
  match ← (heading.encoding.map (declaredForUnits bigEndian)).getD (.ok none) with
  | some upperHalf =>
    let rest := bytes.drop (2 * (chars.length - text.length))
    return ⟨heading, ← orMalformed (rest.mapM (charOf? upperHalf)), .standard⟩
  | none => if noneLeft && isWhole then return ⟨heading, text, .extended⟩ else throw .malformed

def Content.ofBytes (bytes : List UInt8) : Except Fault Content :=
  match Family.ofBytes bytes with
  | .bytes mark => byteContent (bytes.drop mark)
  | .littleEndian mark => unitContent false (bytes.drop mark)
  | .bigEndian mark => unitContent true (bytes.drop mark)

def read (bytes : ByteArray) : Except Fault Tree := do
  let content ← Content.ofBytes bytes.toList
  let text := Text.foldBreaks content.text
  if !text.all isXmlChar then throw .malformed
  let profile := ⟨content.alphabet, content.heading.standalone, bytes.size⟩
  orMalformed ((items? content.alphabet text).bind (document? profile))

end ScriptDeps.Xml
