import ScriptDeps.Xml.Namespace

/-!
# Documents

A document is the tree of its elements and texts. It is there only if the text is well-formed:
tags nest, names are unique and bound to namespaces, references are to declared entities that do
not hold themselves and stand inside the one element that holds all the rest.
-/

namespace ScriptDeps.Xml

/-- A part of a document. -/
inductive Tree
  | element (space name : List Char) (children : List Tree)
  | text (chars : List Char)
  deriving Inhabited

mutual

/-- All the text in a part of a document. -/
def Tree.allText : Tree → List Char
  | .element _ _ children => allTexts children
  | .text chars => chars

def allTexts : List Tree → List Char
  | [] => []
  | tree :: rest => tree.allText ++ allTexts rest

end

/-- The first child element with a name outside all namespaces. -/
def Tree.child? (name : List Char) : Tree → Option Tree
  | .element _ _ children => children.find? fun
    | .element space childName _ => space.isEmpty && childName == name
    | .text _ => false
  | .text _ => none

/-! ### Entities in the content -/

/-- How many elements are open after items; none if one is closed that they did not open. -/
def nesting? (opened : Nat) : List Item → Option Nat
  | [] => some opened
  | .startTag _ _ false :: rest => nesting? (opened + 1) rest
  | .endTag _ :: rest => match opened with
    | 0 => none
    | n + 1 => nesting? n rest
  | _ :: rest => nesting? opened rest

/-- Items with every reference to an entity replaced by the entity's items. The depth bounds how
far entities are inside one another; `opened` are those being replaced. -/
def expandItems? (defs : Definitions) :
    Nat → List (List Char) → List Item → Option (List Item)
  | 0, _, items => if items.isEmpty then some [] else none
  | depth + 1, opened, items =>
    let expandItem : Item → Option (List Item)
      | .reference (.entity name) => do
        guard (!opened.contains name)
        let inner ← items? .standard (← defs.text? name)
        guard (nesting? 0 inner == some 0)
        expandItems? defs depth (name :: opened) inner
      | item => some [item]
    (items.mapM expandItem).map List.flatten

/-! ### Building the tree -/

/-- An element that is still open. -/
structure Frame where
  name : QName
  space : List Char
  bindings : Bindings
  /-- The parts so far, the last first. -/
  children : List Tree

/-- How far a document is built: the open elements, the innermost first, and the finished root. -/
structure Builder where
  frames : List Frame
  root : Option Tree

namespace Builder

def start : Builder := ⟨[], none⟩

/-- A finished part added to the innermost element, or made the root. -/
def addTree (b : Builder) (tree : Tree) : Option Builder :=
  match b.frames, b.root with
  | frame :: frames, root =>
    some ⟨{ frame with children := tree :: frame.children } :: frames, root⟩
  | [], none => some ⟨[], some tree⟩
  | [], some _ => none

def addText (b : Builder) (chars : List Char) : Option Builder :=
  if b.frames.isEmpty then none else b.addTree (.text chars)

def add (defs : Definitions) (b : Builder) : Item → Option Builder
  | .chars text =>
    if b.frames.isEmpty && text.all isSpace then some b else b.addText text
  | .cdata text => b.addText text
  | .reference (.char c) => b.addText [c]
  | .reference (.entity _) => none
  | .comment => some b
  | .instruction => some b
  | .doctype _ => none
  | .startTag name attributes closed => do
    guard (!b.frames.isEmpty || b.root.isNone)
    let bindings := match b.frames with
      | frame :: _ => frame.bindings
      | [] => .initial
    let (space, part, bindings) ← resolveTag? defs bindings name attributes
    if closed then b.addTree (.element space part [])
    else return ⟨⟨name, space, bindings, []⟩ :: b.frames, b.root⟩
  | .endTag name =>
    match b.frames with
    | frame :: frames =>
      if frame.name = name then
        addTree ⟨frames, b.root⟩ (.element frame.space name.part frame.children.reverse)
      else none
    | [] => none

end Builder

def Item.isOuter : Item → Bool
  | .chars text => text.all isSpace
  | .comment | .instruction => true
  | _ => false

def Item.isStartTag : Item → Bool
  | .startTag .. => true
  | _ => false

/-- The document type, which may stand once before the root, and the items from the root on. -/
def cutProlog? (items : List Item) : Option (Doctype × List Item) := do
  let (type, rest) := match items.dropWhile Item.isOuter with
    | .doctype type :: rest => (type, rest.dropWhile Item.isOuter)
    | rest => (.empty, rest)
  guard (rest.head?.any Item.isStartTag)
  return (type, rest)

/-- How many of the items belong to the root: those up to the end of the first element. -/
def rootLength (opened : Nat) : List Item → Nat
  | [] => 0
  | .startTag _ _ false :: rest => rootLength (opened + 1) rest + 1
  | .startTag _ _ true :: rest => if opened = 0 then 1 else rootLength opened rest + 1
  | .endTag _ :: rest => if opened ≤ 1 then 1 else rootLength (opened - 1) rest + 1
  | _ :: rest => rootLength opened rest + 1

def document? (profile : Profile) (items : List Item) : Option Tree := do
  let (type, rest) ← cutProlog? items
  let length := rootLength 0 rest
  guard ((rest.drop length).all Item.isOuter)
  let inside := rest.take length
  let defs ← Definitions.ofDoctype? profile type
  discard (defs.charge? profile (inside.flatMap Item.referred))
  let expanded ← expandItems? defs defs.depth [] inside
  let built ← expanded.foldlM (Builder.add defs) Builder.start
  guard built.frames.isEmpty
  built.root

end ScriptDeps.Xml
