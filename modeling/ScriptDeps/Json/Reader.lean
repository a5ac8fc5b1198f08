import ScriptDeps.Json.Basic
import ScriptDeps.Text.Digit

/-!
# Reading JSON

A text is cut into tokens one character at a time, and the tokens drive a machine with a stack of
open lists and objects. Besides the standard's values it knows the three names for numbers that
are not finite. A nesting deeper than `maxDepth`, or an integer with too many digits, is refused
in its own way.
-/

namespace ScriptDeps.Json

/-- Why a text is not read as JSON. -/
inductive Fault
  | malformed
  | tooDeep
  | numberTooLong
  deriving DecidableEq, Repr

/-- The greatest number of lists and objects around a value. -/
def maxDepth : Nat := 980

/-! ### Tokens -/

/-- A token, or the fault met in its place. -/
inductive Token
  | openList
  | closeList
  | openObject
  | closeObject
  | comma
  | colon
  | value (json : Json)
  | bad (fault : Fault)

/-- What a number's text denotes; an integer unless it has a fraction or an exponent. -/
structure NumberText where
  negative : Bool
  wholeDigits : List Char
  fraction : Option (List Char)
  exponent : Option (Bool × List Char)

/-- The digits at the start of a text and what follows them. -/
def takeDigits (text : List Char) : List Char × List Char :=
  (text.takeWhile Char.isDigit, text.dropWhile Char.isDigit)

/-- The digits before a point at the start of a text: a zero, or any that do not begin with one. -/
def takeWhole : List Char → List Char × List Char
  | '0' :: rest => (['0'], rest)
  | digits => takeDigits digits

/-- The digits after a point at the start of a text, if there are any. -/
def takeFraction (text : List Char) : Option (List Char) × List Char :=
  match text with
  | '.' :: rest =>
    let (digits, rest) := takeDigits rest
    if digits.isEmpty then (none, text) else (some digits, rest)
  | _ => (none, text)

/-- The digits of an exponent at the start of a text and whether it is negative, if there is one. -/
def takeExponent (text : List Char) : Option (Bool × List Char) × List Char :=
  match text with
  | 'e' :: rest | 'E' :: rest =>
    let (down, rest) := match rest with
      | '-' :: rest => (true, rest)
      | '+' :: rest => (false, rest)
      | rest => (false, rest)
    let (digits, rest) := takeDigits rest
    if digits.isEmpty then (none, text) else (some (down, digits), rest)
  | _ => (none, text)

/-- The parts of the longest number that a text starts with, and what follows it. -/
def numberText? (text : List Char) : Option (NumberText × List Char) :=
  let (negative, rest) := match text with
    | '-' :: rest => (true, rest)
    | rest => (false, rest)
  let (whole, rest) := takeWhole rest
  if whole.isEmpty then none
  else
    let (fraction, rest) := takeFraction rest
    let (exponent, rest) := takeExponent rest
    some (⟨negative, whole, fraction, exponent⟩, rest)

def digitsValue (digits : List Char) : Nat :=
  digits.foldl (fun n c => 10 * n + (c.toNat - '0'.toNat)) 0

/-- The nearest floating-point number to `digits * 10 ^ exponent`. Exponents out of every number's
reach are cut off first. -/
def nearestReal (digits : Nat) (exponent : Int) : Float :=
  if digits = 0 then 0
  else
    let leading := exponent + (Nat.toDigits 10 digits).length
    if leading < -400 then 0
    else if leading > 400 then 1.0 / 0.0
    else if exponent < 0 then Float.ofScientific digits true (-exponent).toNat
    else Float.ofScientific (digits * Nat.pow 10 exponent.toNat) false 0

def NumberText.token (n : NumberText) : Token :=
  if n.fraction.isNone && n.exponent.isNone then
    if n.wholeDigits.length > Text.maxDigits then .bad .numberTooLong
    else
      let size := digitsValue n.wholeDigits
      .value (.integer (if n.negative then -(size : Int) else size))
  else
    let fraction := n.fraction.getD []
    let shift : Int := match n.exponent with
      | some (down, digits) =>
        let size := digitsValue (digits.dropWhile (· == '0'))
        if down then -(size : Int) else size
      | none => 0
    let size := nearestReal (digitsValue (n.wholeDigits ++ fraction)) (shift - fraction.length)
    .value (.real (if n.negative then -size else size))

/-- The tokens for a run of letters, digits, signs and points: at most one, and a fault if more
follows it. -/
def wordTokens (word : List Char) : List Token :=
  if word = "true".toList then [.value (.bool true)]
  else if word = "false".toList then [.value (.bool false)]
  else if word = "null".toList then [.value .null]
  else if word = "NaN".toList then [.value (.real (0.0 / 0.0))]
  else if word = "Infinity".toList then [.value (.real (1.0 / 0.0))]
  else if word = "-Infinity".toList then [.value (.real (-1.0 / 0.0))]
  else match numberText? word with
    | some (n, []) => [n.token]
    | some (n, _) => [n.token, .bad .malformed]
    | none => [.bad .malformed]

/-- Where the cutter stands. What has been read is kept backwards, and so are the hexadecimal digits
of an escape; `high` is a first surrogate, less `0xD800`, that waits for its second. -/
inductive Cutter
  | between
  | inWord (read : List Char)
  | inText (read : List CodePoint) (high : Option (Fin 1024))
  | inEscape (read : List CodePoint) (high : Option (Fin 1024))
  | inUnit (read : List CodePoint) (high : Option (Fin 1024)) (digits : List Nat)

def hexValue? (c : Char) : Option Nat :=
  if c.isDigit then some (c.toNat - '0'.toNat)
  else if 'a' ≤ c && c ≤ 'f' then some (c.toNat - 'a'.toNat + 10)
  else if 'A' ≤ c && c ≤ 'F' then some (c.toNat - 'A'.toNat + 10)
  else none

/-- The code points read, with a first surrogate that has waited in vain. -/
def settle (read : List CodePoint) : Option (Fin 1024) → List CodePoint
  | some first => .half (first.castLE (by decide)) :: read
  | none => read

/-- The code points read and the first surrogate waiting after a UTF-16 unit. -/
def addUnit (read : List CodePoint) (high : Option (Fin 1024)) (unit : Nat) :
    List CodePoint × Option (Fin 1024) :=
  if 0xD800 ≤ unit && unit < 0xDC00 then (settle read high, some (Fin.ofNat 1024 unit))
  else if 0xDC00 ≤ unit && unit < 0xE000 then
    match high with
    | some first => (.char (Char.ofNat (0x10000 + first * 0x400 + (unit - 0xDC00))) :: read, none)
    | none => (.half (Fin.ofNat 2048 unit) :: read, none)
  else (.char (Char.ofNat unit) :: settle read high, none)

def shortEscape? (c : Char) : Option Char :=
  if c == '"' || c == '\\' || c == '/' then some c
  else if c == 'b' then some '\x08'
  else if c == 'f' then some '\x0c'
  else if c == 'n' then some '\n'
  else if c == 'r' then some '\r'
  else if c == 't' then some '\t'
  else none

def mark? (c : Char) : Option Token :=
  if c == '[' then some .openList
  else if c == ']' then some .closeList
  else if c == '\x7b' then some .openObject
  else if c == '\x7d' then some .closeObject
  else if c == ',' then some .comma
  else if c == ':' then some .colon
  else none

/-- Whether a run of letters and digits goes on with the character. -/
def isWordPart (c : Char) : Bool :=
  c.isAlphanum || c == '-' || c == '+' || c == '.'

def startToken (c : Char) : List Token × Cutter :=
  if c == ' ' || c == '\t' || c == '\n' || c == '\r' then ([], .between)
  else if c == '"' then ([], .inText [] none)
  else if isWordPart c then ([], .inWord [c])
  else match mark? c with
    | some token => ([token], .between)
    | none => ([.bad .malformed], .between)

def feed (c : Char) : Cutter → List Token × Cutter
  | .between => startToken c
  | .inWord read =>
    if isWordPart c then ([], .inWord (c :: read))
    else
      let (tokens, next) := startToken c
      (wordTokens read.reverse ++ tokens, next)
  | .inText read high =>
    if c == '\\' then ([], .inEscape read high)
    else if c == '"' then
      ([.value (.text ⟨(settle read high).reverse⟩)], .between)
    else if c.toNat < 32 then ([.bad .malformed], .between)
    else ([], .inText (.char c :: settle read high) none)
  | .inEscape read high =>
    if c == 'u' then ([], .inUnit read high [])
    else match shortEscape? c with
      | some meant => ([], .inText (.char meant :: settle read high) none)
      | none => ([.bad .malformed], .between)
  | .inUnit read high digits =>
    match hexValue? c with
    | none => ([.bad .malformed], .between)
    | some digit =>
      match digits with
      | [third, second, first] =>
        let (read, high) := addUnit read high (((first * 16 + second) * 16 + third) * 16 + digit)
        ([], .inText read high)
      | digits => ([], .inUnit read high (digit :: digits))

def tokensFrom (cutter : Cutter) : List Char → List Token
  | [] => match cutter with
    | .between => []
    | .inWord read => wordTokens read.reverse
    | _ => [.bad .malformed]
  | c :: rest =>
    let (tokens, next) := feed c cutter
    tokens ++ tokensFrom next rest

/-! ### Values -/

/-- A list or an object that is still open. -/
inductive Frame
  /-- A list with its items so far, the last first. -/
  | items (read : List Json)
  /-- An object with its members so far and the name whose value comes next. -/
  | members (read : List (LooseText × Json)) (name : LooseText)

/-- What may come next. -/
inductive Awaited
  /-- A value. -/
  | value
  /-- The first item of a list, or its end. -/
  | firstItem
  /-- The first name of an object with these members, or its end. -/
  | firstName
  /-- A name, after a comma. -/
  | name (read : List (LooseText × Json))
  /-- The colon after a name. -/
  | colon (read : List (LooseText × Json)) (name : LooseText)
  /-- A comma or the end of the innermost list or object, after this value. -/
  | more (done : Json)

/-- The reading of a list is resumed, or ended by `]`, with `done` as its last item. -/
def closeFrame (stack : List Frame) (done : Json) : Token → Except Fault (List Frame × Awaited)
  | .comma => match stack with
    | .items read :: rest => .ok (.items (done :: read) :: rest, .value)
    | .members read name :: rest => .ok (rest, .name (put name done read))
    | [] => .error .malformed
  | .closeList => match stack with
    | .items read :: rest => .ok (rest, .more (.list (done :: read).reverse))
    | _ => .error .malformed
  | .closeObject => match stack with
    | .members read name :: rest => .ok (rest, .more (.object (put name done read)))
    | _ => .error .malformed
  | _ => .error .malformed

/-- A token where a value may start. Only here can a number be found to be too long. -/
def openFrame (stack : List Frame) : Token → Except Fault (List Frame × Awaited)
  | .value json => .ok (stack, .more json)
  | .openList =>
    if stack.length ≥ maxDepth then .error .tooDeep else .ok (stack, .firstItem)
  | .openObject =>
    if stack.length ≥ maxDepth then .error .tooDeep else .ok (stack, .firstName)
  | .bad fault => .error fault
  | _ => .error .malformed

/-- What a token makes of the stack and of what was awaited. -/
def take (stack : List Frame) (awaited : Awaited) (token : Token) :
    Except Fault (List Frame × Awaited) :=
  match awaited with
  | .value => openFrame stack token
  | .firstItem => match token with
    | .closeList => .ok (stack, .more (.list []))
    | token => openFrame (.items [] :: stack) token
  | .firstName => match token with
    | .closeObject => .ok (stack, .more (.object []))
    | .value (.text name) => .ok (stack, .colon [] name)
    | _ => .error .malformed
  | .name read => match token with
    | .value (.text name) => .ok (stack, .colon read name)
    | _ => .error .malformed
  | .colon read name => match token with
    | .colon => .ok (.members read name :: stack, .value)
    | _ => .error .malformed
  | .more done => closeFrame stack done token

def readTokens (stack : List Frame) (awaited : Awaited) : List Token → Except Fault Json
  | [] => match stack, awaited with
    | [], .more done => .ok done
    | _, _ => .error .malformed
  | token :: rest => do
    let (stack, awaited) ← take stack awaited token
    readTokens stack awaited rest

def read (text : String) : Except Fault Json :=
  readTokens [] .value (tokensFrom .between text.toList)

end ScriptDeps.Json
