import ScriptDeps.Xml.Declaration

/-!
# Markup

An XML text as a list of items: characters, references, tags, comments, instructions and the
document type. Nesting, namespaces and what declarations mean are not looked at.
-/

namespace ScriptDeps.Xml

/-- An attribute: its name and the pieces of its value. -/
structure Attribute where
  name : QName
  value : List Piece
  deriving DecidableEq, Repr

/-- A document type as it is written. -/
structure Doctype where
  /-- Whether more is declared in another file, which is never read. -/
  isExtended : Bool
  declarations : List Declaration
  deriving DecidableEq, Repr

def Doctype.empty : Doctype := ⟨false, []⟩

/-- An item of an XML text. -/
inductive Item
  | chars (text : List Char)
  | cdata (text : List Char)
  | reference (piece : Piece)
  | startTag (name : QName) (attributes : List Attribute) (closed : Bool)
  | endTag (name : QName)
  | comment
  | instruction
  | doctype (type : Doctype)
  deriving DecidableEq, Repr

/-- The names of the entities that an item refers to. -/
def Item.referred : Item → List (List Char)
  | .reference piece => piece.referred?.toList
  | .startTag _ attributes _ => attributes.flatMap (·.value.filterMap Piece.referred?)
  | _ => []

/-- A comment after its opening. Two dashes only end it. -/
def comment? (text : List Char) : Option (List Char) := do
  let (_, rest) ← cutAt? ['-', '-'] text
  after? ['>'] rest

/-- An instruction after its opening. Its name is not `xml` in any letter case. -/
def instruction? (alphabet : Alphabet) (text : List Char) : Option (List Char) := do
  let (target, rest) ← name? alphabet text
  guard (target.map Char.toLower ≠ "xml".toList)
  guard (rest.head?.any isSpace || (after? ['?', '>'] rest).isSome)
  let (_, rest) ← cutAt? ['?', '>'] rest
  return rest

/-- The attributes of a tag, whether it is closed at once, and what follows it. The fuel is the
length of the text. -/
def attributes? (alphabet : Alphabet) :
    Nat → List Char → Option (List Attribute × Bool × List Char)
  | 0, _ => none
  | fuel + 1, text => do
    match dropSpace text with
    | '>' :: rest => return ([], false, rest)
    | '/' :: '>' :: rest => return ([], true, rest)
    | start =>
      guard (text.head?.any isSpace)
      let (name, rest) ← qname? alphabet start
      let rest ← after? ['='] (dropSpace rest)
      let (value, rest) ← literal? (dropSpace rest)
      let pieces ← pieces? alphabet value.length value
      let (others, closed, rest) ← attributes? alphabet fuel rest
      return (⟨name, pieces⟩ :: others, closed, rest)

/-- What is declared up to the closing bracket, and what follows it. The fuel is the length of the
text. -/
def subset? (alphabet : Alphabet) : Nat → List Char → Option (List Declaration × List Char)
  | 0, _ => none
  | fuel + 1, text => do
    match dropSpace text with
    | ']' :: rest => return ([], rest)
    | '%' :: rest =>
      let (_, rest) ← name? alphabet rest
      let (declarations, rest) ← subset? alphabet fuel (← after? [';'] rest)
      return (.reference :: declarations, rest)
    | '<' :: '?' :: rest => subset? alphabet fuel (← instruction? alphabet rest)
    | '<' :: '!' :: '-' :: '-' :: rest => subset? alphabet fuel (← comment? rest)
    | '<' :: '!' :: rest =>
      let (keyword, rest) ← name? alphabet rest
      guard (rest.head?.any isSpace)
      let (tokens, opensSubset, rest) ← tokens? alphabet rest.length rest
      guard !opensSubset
      let declaration ← Declaration.ofTokens? keyword tokens
      let (declarations, rest) ← subset? alphabet fuel rest
      return (declaration :: declarations, rest)
    | _ => none

def doctype? (alphabet : Alphabet) (text : List Char) : Option (Doctype × List Char) := do
  guard (text.head?.any isSpace)
  let (tokens, opensSubset, rest) ← tokens? alphabet text.length text
  let outside ← match tokens with
    | name :: outside => if name.nameText?.isSome then some outside else none
    | [] => none
  guard (outside.isEmpty || isExternalId outside)
  if opensSubset then
    let (declarations, rest) ← subset? alphabet (rest.length + 1) rest
    return (⟨!outside.isEmpty, declarations⟩, ← after? ['>'] (dropSpace rest))
  else return (⟨!outside.isEmpty, []⟩, rest)

/-- The first item of a text that is not empty. -/
def item? (alphabet : Alphabet) : List Char → Option (Item × List Char)
  | '<' :: '/' :: rest => do
    let (name, rest) ← qname? alphabet rest
    return (.endTag name, ← after? ['>'] (dropSpace rest))
  | '<' :: '?' :: rest => do return (.instruction, ← instruction? alphabet rest)
  | '<' :: '!' :: rest =>
    match after? ['-', '-'] rest, after? "[CDATA[".toList rest, after? "DOCTYPE".toList rest with
    | some rest, _, _ => do return (.comment, ← comment? rest)
    | none, some rest, _ => do
      let (text, rest) ← cutAt? "]]>".toList rest
      return (.cdata text, rest)
    | none, none, some rest => do
      let (type, rest) ← doctype? alphabet rest
      return (.doctype type, rest)
    | none, none, none => none
  | '<' :: rest => do
    let (name, rest) ← qname? alphabet rest
    let (attributes, closed, rest) ← attributes? alphabet (rest.length + 1) rest
    return (.startTag name attributes closed, rest)
  | '&' :: rest => do
    let (piece, rest) ← reference? alphabet rest
    return (.reference piece, rest)
  | text =>
    let run := text.takeWhile fun c => c != '<' && c != '&'
    if (Text.find? "]]>".toList run).isSome then none
    else some (.chars run, text.dropWhile fun c => c != '<' && c != '&')

/-- The items of a text. The fuel is its length. -/
def itemsOf? (alphabet : Alphabet) : Nat → List Char → Option (List Item)
  | _, [] => some []
  | 0, _ => none
  | fuel + 1, text => do
    let (item, rest) ← item? alphabet text
    return item :: (← itemsOf? alphabet fuel rest)

def items? (alphabet : Alphabet) (text : List Char) : Option (List Item) :=
  itemsOf? alphabet text.length text

end ScriptDeps.Xml
