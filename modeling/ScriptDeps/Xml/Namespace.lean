import ScriptDeps.Xml.Entity

/-!
# Namespaces

The namespaces that the names of a tag are in. A tag binds prefixes for itself and for all inside
it, also by attributes that it has without giving them.
-/

namespace ScriptDeps.Xml

/-- Prefixes bound to namespaces, the innermost binding first; the empty prefix is the default. -/
abbrev Bindings := List (List Char × List Char)

def xmlSpace : List Char := "http://www.w3.org/XML/1998/namespace".toList

def xmlnsSpace : List Char := "http://www.w3.org/2000/xmlns/".toList

def Bindings.initial : Bindings := [("xml".toList, xmlSpace)]

def Bindings.space? (bindings : Bindings) (qualifier : List Char) : Option (List Char) :=
  (bindings.find? (·.1 == qualifier)).map (·.2)

/-- The parts of a name as it is written. -/
def QName.ofText (text : List Char) : QName :=
  match Text.cutAt ':' text with
  | (first, []) => ⟨none, first⟩
  | (first, rest) => ⟨some first, rest⟩

/-- The binding that an attribute declares; none within if it declares none. Expanded names are
written with a closing brace after the namespace, so none may stand inside one. -/
def binding? (name : QName) (value : List Char) : Option (Option (List Char × List Char)) :=
  let isXml := value == xmlSpace
  let isReserved := value == xmlnsSpace || value.contains '\x7d'
  if name = ⟨none, "xmlns".toList⟩ then
    if isXml || isReserved then none else some (some ([], value))
  else if name.qualifier = some "xmlns".toList then
    if name.part = "xmlns".toList || value.isEmpty || isReserved then none
    else if (name.part == "xml".toList) != isXml then none
    else some (some (name.part, value))
  else some none

/-- The attributes of a tag with their values, then those that it has without giving them. -/
def attributeValues? (defs : Definitions) (name : QName) (attributes : List Attribute) :
    Option (List (QName × List Char)) := do
  let rules := defs.rules name.text
  let given ← attributes.mapM fun entry => do
    let isText := ((rules.find? (·.name == entry.name.text)).map (·.isText)).getD true
    return (entry.name, ← defs.attributeValue? isText entry.value)
  let others := rules.filterMap fun rule => rule.value.map (QName.ofText rule.name, ·)
  return given ++ others.filter fun (name, _) => !given.any (·.1 == name)

def areDistinct {α : Type} [BEq α] (values : List α) : Bool :=
  values.eraseDups.length == values.length

/-- The namespace and the name of an element, and the bindings inside it. -/
def resolveTag? (defs : Definitions) (bindings : Bindings) (name : QName)
    (attributes : List Attribute) : Option (List Char × List Char × Bindings) := do
  guard (areDistinct (attributes.map (·.name)))
  let values ← attributeValues? defs name attributes
  let declared ← values.mapM fun (name, value) => binding? name value
  let bindings : Bindings := (declared.filterMap id).reverse ++ bindings
  let qualified := values.filter fun (name, _) => name.qualifier.any (· ≠ "xmlns".toList)
  let expanded ← qualified.mapM fun (name, _) => do
    return (← bindings.space? (name.qualifier.getD []), name.part)
  guard (areDistinct expanded)
  guard (name.qualifier ≠ some "xmlns".toList)
  match name.qualifier with
  | some qualifier => return (← bindings.space? qualifier, name.part, bindings)
  | none => return ((bindings.space? []).getD [], name.part, bindings)

end ScriptDeps.Xml
