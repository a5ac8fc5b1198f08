import ScriptDeps.Xml.Reference

/-!
# Declarations of a document type

A declaration is cut into tokens, between which white space means nothing; a token ends only
before certain characters. What the tokens of a declaration declare is then read off their order.
Values are kept as they are written: whether they are looked at at all depends on what is declared
before them.
-/

namespace ScriptDeps.Xml

/-! ### Tokens -/

/-- What a declaration is made of. -/
inductive Token
  /-- A name without a colon. -/
  | name (text : List Char)
  /-- A name with one colon inside it. -/
  | qualified (text : List Char)
  /-- Any other run of characters of names and colons. -/
  | word
  /-- A name, qualified or not, after which stands how often it may occur. -/
  | counted
  /-- A name after a number sign. -/
  | marked (text : List Char)
  | literal (text : List Char)
  | percent
  | comma
  | bar
  | openGroup
  /-- The end of a group, and how often the group may occur if that is said. -/
  | closeGroup (count : Option Char)
  | openSubset
  | close
  deriving DecidableEq, Repr

/-- Whether a text starts with white space or one of some characters. -/
def startsWith (marks text : List Char) : Bool :=
  text.head?.any fun c => isSpace c || marks.contains c

/-- Whether the character says how often something may occur. -/
def isCount (c : Char) : Bool :=
  c == '?' || c == '*' || c == '+'

/-- The kind of a run of characters of names and colons. -/
def wordToken (alphabet : Alphabet) (run : List Char) : Token :=
  if !run.head?.any (isNameStart alphabet) then .word
  else match run.count ':' with
    | 0 => .name run
    | 1 => if run.getLast? == some ':' then .word else .qualified run
    | _ => .word

/-- The run of characters of names and colons at the start of a text, and what follows it. -/
def word? (alphabet : Alphabet) (text : List Char) : Option (Token × List Char) :=
  let isPart := fun c => c == ':' || isNameChar alphabet c
  let run := text.takeWhile isPart
  let rest := text.dropWhile isPart
  if run.isEmpty then none
  else if startsWith [')', '>', ',', '|', '[', '%'] rest then some (wordToken alphabet run, rest)
  else if rest.head?.any isCount && wordToken alphabet run != .word then
    some (.counted, rest.drop 1)
  else none

/-- The first token of a text that does not start with white space. -/
def token? (alphabet : Alphabet) : List Char → Option (Token × List Char)
  | '>' :: rest => some (.close, rest)
  | '[' :: rest => some (.openSubset, rest)
  | ',' :: rest => some (.comma, rest)
  | '|' :: rest => some (.bar, rest)
  | '(' :: rest => some (.openGroup, rest)
  | ')' :: rest =>
    match rest with
    | '?' :: after => some (.closeGroup (some '?'), after)
    | '*' :: after => some (.closeGroup (some '*'), after)
    | '+' :: after => some (.closeGroup (some '+'), after)
    | _ => if startsWith [')', '>', ',', '|'] rest then some (.closeGroup none, rest) else none
  | '%' :: rest => if startsWith [] rest then some (.percent, rest) else none
  | '#' :: rest => do
    let (name, rest) ← name? alphabet rest
    guard (startsWith [')', '>', '|', '%'] rest)
    return (.marked name, rest)
  | c :: rest =>
    if c == '"' || c == '\'' then do
      let (text, rest) ← cutAt? [c] rest
      guard (startsWith ['>', '[', '%'] rest)
      return (.literal text, rest)
    else word? alphabet (c :: rest)
  | [] => none

/-- The tokens up to the end of a declaration or the start of a subset, whether it is a subset
that follows, and what does. The fuel is the length of the text. -/
def tokens? (alphabet : Alphabet) : Nat → List Char → Option (List Token × Bool × List Char)
  | 0, _ => none
  | fuel + 1, text => do
    match ← token? alphabet (dropSpace text) with
    | (.close, rest) => return ([], false, rest)
    | (.openSubset, rest) => return ([], true, rest)
    | (token, rest) =>
      let (tokens, isSubset, rest) ← tokens? alphabet fuel rest
      return (token :: tokens, isSubset, rest)

/-! ### What tokens declare -/

/-- How an entity is declared. -/
inductive EntitySource
  /-- By its value. -/
  | value (text : List Char)
  /-- By the place of a file, which is never read. -/
  | file
  deriving DecidableEq, Repr

/-- What is said about an attribute. -/
structure AttributeRule where
  name : List Char
  /-- Whether its values are texts, and not names or numbers with spaces between them. -/
  isText : Bool
  /-- The value of an attribute that is not given. -/
  value : Option (List Char)
  deriving DecidableEq, Repr

/-- A declaration in the subset of a document type. -/
inductive Declaration
  | entity (name : List Char) (source : EntitySource)
  /-- An entity for use in the document type itself. -/
  | parameter (source : EntitySource)
  | attributes (element : List Char) (rules : List AttributeRule)
  /-- The content of an element or a notation, neither of which is ever checked. -/
  | other
  /-- A reference to an entity for the document type; what it stands for is not read. -/
  | reference
  deriving DecidableEq, Repr

/-- Whether the character may occur in a public identifier. -/
def isPublicChar (c : Char) : Bool :=
  c.isAlphanum || "-'()+,./:=?;!*#@$_% \r\n".toList.contains c

def isExternalId : List Token → Bool
  | [.name word, .literal _] => word == "SYSTEM".toList
  | [.name word, .literal identifier, .literal _] =>
    word == "PUBLIC".toList && identifier.all isPublicChar
  | _ => false

/-- The source of an entity. Only an entity for the content can be in a form of its own, which
`NDATA` names. -/
def entitySource? (hasForms : Bool) (tokens : List Token) : Option EntitySource :=
  match tokens with
  | [.literal text] => some (.value text)
  | _ =>
    if isExternalId tokens then some .file
    else match tokens.reverse with
      | .name _ :: .name word :: before =>
        if hasForms && word == "NDATA".toList && isExternalId before.reverse then some .file
        else none
      | _ => none

def entityDeclaration? : List Token → Option Declaration
  | .name name :: tokens => (entitySource? true tokens).map (.entity name)
  | .percent :: .name _ :: tokens => (entitySource? false tokens).map .parameter
  | _ => none

def isNotation : List Token → Bool
  | .name _ :: [.name word, .literal identifier] =>
    word == "SYSTEM".toList || word == "PUBLIC".toList && identifier.all isPublicChar
  | .name _ :: [.name word, .literal identifier, .literal _] =>
    word == "PUBLIC".toList && identifier.all isPublicChar
  | _ => false

/-- Whether tokens go on with open groups of elements. `due` tells whether a part must come next;
for each group, the innermost first, there is what joins its parts, once that is known. -/
def isContent : Bool → List (Option Token) → List Token → Bool
  | true, groups, .openGroup :: rest => isContent true (none :: groups) rest
  | true, groups, .name _ :: rest => isContent false groups rest
  | true, groups, .qualified _ :: rest => isContent false groups rest
  | true, groups, .counted :: rest => isContent false groups rest
  | false, [], rest => rest.isEmpty
  | false, _ :: groups, .closeGroup _ :: rest => isContent false groups rest
  | false, group :: groups, .comma :: rest =>
    group.all (· = .comma) && isContent true (some .comma :: groups) rest
  | false, group :: groups, .bar :: rest =>
    group.all (· = .bar) && isContent true (some .bar :: groups) rest
  | _, _, _ => false

/-- Whether tokens go on with a group of elements between which texts may stand. -/
def isMixedContent : List Token → Bool
  | [.closeGroup (some '*')] => true
  | .bar :: .name _ :: rest => isMixedContent rest
  | .bar :: .qualified _ :: rest => isMixedContent rest
  | _ => false

def isElement : List Token → Bool
  | .name _ :: rest => isContentModel rest
  | .qualified _ :: rest => isContentModel rest
  | _ => false
where
  /-- Whether tokens are what may stand after the name. -/
  isContentModel : List Token → Bool
    | [.name word] => word == "EMPTY".toList || word == "ANY".toList
    | .openGroup :: .marked word :: rest =>
      word == "PCDATA".toList && (rest == [.closeGroup none] || isMixedContent rest)
    | .openGroup :: rest => isContent true [none] rest
    | _ => false

/-- What follows a group of words with bars between them. -/
def choices? (isChoice : Token → Bool) : List Token → Option (List Token)
  | choice :: .bar :: rest => if isChoice choice then choices? isChoice rest else none
  | choice :: .closeGroup none :: rest => if isChoice choice then some rest else none
  | _ => none

/-- Whether the token may be one of the values of an attribute. -/
def Token.isWord : Token → Bool
  | .name _ | .qualified _ | .word => true
  | _ => false

/-- Whether the token is a name without a colon. -/
def Token.isName : Token → Bool
  | .name _ => true
  | _ => false

/-- The types of attributes that have a name, other than that of texts. -/
def tokenTypes : List String :=
  ["ID", "IDREF", "IDREFS", "ENTITY", "ENTITIES", "NMTOKEN", "NMTOKENS"]

/-- Whether a type of attributes is that of texts, and what follows the type. -/
def attributeType? : List Token → Option (Bool × List Token)
  | .openGroup :: rest => do return (false, ← choices? Token.isWord rest)
  | .name word :: rest =>
    if word = "CDATA".toList then some (true, rest)
    else if word = "NOTATION".toList then
      match rest with
      | .openGroup :: rest => do return (false, ← choices? Token.isName rest)
      | _ => none
    else if tokenTypes.contains (String.ofList word) then some (false, rest)
    else none
  | _ => none

/-- The value of an attribute that is not given, and what follows it. -/
def attributeDefault? : List Token → Option (Option (List Char) × List Token)
  | .marked word :: .literal text :: rest =>
    if word = "FIXED".toList then some (some text, rest) else none
  | .marked word :: rest =>
    if word = "IMPLIED".toList || word = "REQUIRED".toList then some (none, rest) else none
  | .literal text :: rest => some (some text, rest)
  | _ => none

def Token.nameText? : Token → Option (List Char)
  | .name text | .qualified text => some text
  | _ => none

/-- What tokens say about attributes. The fuel is their number. -/
def attributeRules? : Nat → List Token → Option (List AttributeRule)
  | _, [] => some []
  | 0, _ => none
  | fuel + 1, token :: rest => do
    let name ← token.nameText?
    let (isText, rest) ← attributeType? rest
    let (value, rest) ← attributeDefault? rest
    return ⟨name, isText, value⟩ :: (← attributeRules? fuel rest)

def Declaration.ofTokens? (keyword : List Char) (tokens : List Token) : Option Declaration :=
  if keyword = "ENTITY".toList then entityDeclaration? tokens
  else if keyword = "ATTLIST".toList then
    match tokens with
    | token :: rest => do
      return .attributes (← token.nameText?) (← attributeRules? rest.length rest)
    | [] => none
  else if keyword = "ELEMENT".toList then if isElement tokens then some .other else none
  else if keyword = "NOTATION".toList then if isNotation tokens then some .other else none
  else none

end ScriptDeps.Xml
