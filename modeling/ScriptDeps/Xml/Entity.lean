import ScriptDeps.Xml.Markup

/-!
# Entities and values of attributes

What the declarations of a document type define, the first definition of a name being the one that
counts: the texts of entities, and the attributes that elements have without giving them. A value
in a declaration is looked at only as long as all that can stand before it has been read.
-/

namespace ScriptDeps.Xml

/-- What an entity stands for. -/
inductive EntityValue
  | inside (text : List Char)
  /-- It stands in another file, which is never read. -/
  | outside
  deriving DecidableEq, Repr

abbrev EntityList := List (List Char × EntityValue)

/-- What holds for the whole of a document. -/
structure Profile where
  alphabet : Alphabet
  /-- Whether nothing that is declared elsewhere matters. -/
  standalone : Bool
  /-- The number of its bytes. -/
  size : Nat
  deriving Repr

/-- What is defined for a document. -/
structure Definitions where
  /-- The entities, the first declaration of a name first. -/
  entities : EntityList
  /-- Whether there are no other entities. -/
  isComplete : Bool
  /-- What is said about the attributes of elements, with the values of those not given. -/
  attributes : List (List Char × AttributeRule)
  /-- The number of bytes of what stood for references in these values. -/
  expanded : Nat
  deriving Repr

namespace Definitions

/-- A number that is greater than the depth to which entities can be inside one another. -/
def depth (defs : Definitions) : Nat :=
  defs.entities.length + 2

/-- The text that an entity stands for; none if it is not declared or stands outside. -/
def text? (defs : Definitions) (name : List Char) : Option (List Char) :=
  match defs.entities.find? (·.1 == name) with
  | some (_, .inside text) => some text
  | _ => none

/-- The text that an entity stands for in the value of an attribute: nothing, if it may be declared
elsewhere. -/
def valueText? (defs : Definitions) (name : List Char) : Option (List Char) :=
  if !defs.isComplete && !defs.entities.any (·.1 == name) then some [] else defs.text? name

/-! ### Values of attributes -/

/-- The characters that pieces stand for. The depth bounds how far entities are inside one another;
`opened` are those being replaced. -/
def expandPieces? (defs : Definitions) :
    Nat → List (List Char) → List Piece → Option (List Char)
  | 0, _, pieces => if pieces.isEmpty then some [] else none
  | depth + 1, opened, pieces =>
    let expandPiece : Piece → Option (List Char)
      | .char c => some [c]
      | .entity name => do
        guard (!opened.contains name)
        let text ← defs.valueText? name
        expandPieces? defs depth (name :: opened) (← pieces? .standard text.length text)
    (pieces.mapM expandPiece).map List.flatten

/-- The words of a text with a single space between each two. -/
def singleSpaced (text : List Char) : List Char :=
  Text.join ' ' ((Text.split ' ' text).filter (· ≠ []))

def attributeValue? (defs : Definitions) (isText : Bool) (pieces : List Piece) :
    Option (List Char) :=
  (expandPieces? defs defs.depth [] pieces).map fun value =>
    if isText then value else singleSpaced value

/-- What is said about the attributes of an element. -/
def rules (defs : Definitions) (element : List Char) : List AttributeRule :=
  (defs.attributes.filter (·.1 == element)).map (·.2)

/-! ### Size -/

/-- The names of the entities that an entity's text refers to. -/
def referredNames (text : List Char) : List (List Char) :=
  match items? .standard text with
  | some items => items.flatMap Item.referred
  | none => ((pieces? .standard text.length text).getD []).filterMap Piece.referred?

/-- The number of bytes that references come to, given the sizes of entities. -/
def sizeOfNames (sizes : List (List Char × Nat)) (names : List (List Char)) : Nat :=
  names.foldl (fun size name => size + ((sizes.find? (·.1 == name)).map (·.2)).getD 0) 0

/-- The sizes of the entities with all that is inside them, as far as `rounds` of nesting. -/
def expandedSizes (texts : List (List Char × Nat × List (List Char))) :
    Nat → List (List Char × Nat)
  | 0 => []
  | rounds + 1 =>
    let sizes := expandedSizes texts rounds
    texts.map fun (name, size, names) => (name, size + sizeOfNames sizes names)

/-- The greatest number of bytes that a small document may come to. -/
def maxExpansion : Nat := 8388608

/-- How many times its own size any document may come to. -/
def maxGrowth : Nat := 100

/-- The definitions with the references to some names counted; none if they come to too much. -/
def charge? (profile : Profile) (defs : Definitions) (names : List (List Char)) :
    Option Definitions :=
  let texts := defs.entities.filterMap fun
    | (name, .inside text) =>
      some (name, (String.ofList text).utf8ByteSize, referredNames text)
    | (_, .outside) => none
  let expanded := defs.expanded
    + if names.isEmpty then 0 else sizeOfNames (expandedSizes texts (texts.length + 1)) names
  if profile.size + expanded < maxExpansion
      || profile.size + expanded ≤ maxGrowth * profile.size then
    some { defs with expanded := expanded }
  else none

/-! ### Reading declarations -/

/-- What rules say about attributes of an element once the values in them are read. -/
def addRules? (profile : Profile) (element : List Char) (defs : Definitions)
    (rules : List AttributeRule) : Option Definitions :=
  rules.foldlM (fun defs rule => do
    let pieces ← match rule.value with
      | some text => pieces? profile.alphabet text.length text
      | none => pure []
    let defs ← defs.charge? profile (pieces.filterMap Piece.referred?)
    let value ← defs.attributeValue? rule.isText pieces
    let rule := { rule with value := rule.value.map fun _ => value }
    if (defs.rules element).any (·.name == rule.name) then return defs
    else return { defs with attributes := defs.attributes ++ [(element, rule)] }) defs

/-- What is defined after a declaration whose values are read. -/
def add? (profile : Profile) (defs : Definitions) : Declaration → Option Definitions
  | .entity name source => do
    let value ← match source with
      | .value text => do
        pure (EntityValue.inside (← replaceCharRefs? profile.alphabet text.length text))
      | .file => pure .outside
    return { defs with entities := defs.entities ++ [(name, value)] }
  | .parameter (.value text) => do
    discard (replaceCharRefs? profile.alphabet text.length text)
    return defs
  | .parameter .file => some defs
  | .attributes element rules => addRules? profile element defs rules
  | .other => some defs
  | .reference => some defs

/-- What declarations define. In a document that does not stand alone, what follows a reference to
something that is not read is not looked at. -/
def addAll? (profile : Profile) (defs : Definitions) : List Declaration → Option Definitions
  | [] => some defs
  | .reference :: rest =>
    if profile.standalone then addAll? profile defs rest
    else some { defs with isComplete := false }
  | declaration :: rest => do addAll? profile (← add? profile defs declaration) rest

def ofDoctype? (profile : Profile) (type : Doctype) : Option Definitions :=
  addAll? profile ⟨[], profile.standalone || !type.isExtended, [], 0⟩ type.declarations

end Definitions

end ScriptDeps.Xml
