import ScriptDeps.Decimal.Shortest
import ScriptDeps.Text.Loose

/-!
# JSON values

Values as settings files hold them and as the identity worker exchanges them. Texts are loose, for
escapes can spell any UTF-16 unit. An object keeps its members in order, each name once.
-/

namespace ScriptDeps

/-- A JSON value. -/
inductive Json
  | null
  | bool (value : Bool)
  | integer (value : Int)
  | real (value : Float)
  | text (value : LooseText)
  | list (items : List Json)
  | object (members : List (LooseText × Json))
  deriving Inhabited

namespace Json

/-- The members with `name` bound to `value`: in its place if it is bound, else at the end. -/
def put (name : LooseText) (value : Json) :
    List (LooseText × Json) → List (LooseText × Json)
  | [] => [(name, value)]
  | (other, old) :: rest =>
    if other = name then (name, value) :: rest else (other, old) :: put name value rest

/-- The value that a member name is bound to. -/
def lookup? (name : LooseText) (members : List (LooseText × Json)) : Option Json :=
  (members.find? (·.1 == name)).map (·.2)

/-- The value of a member of an object; none of anything else. -/
def get? (name : String) : Json → Option Json
  | object members => lookup? name members
  | _ => none

/-- The text that a value is, if it is one without halves of pairs standing alone. -/
def text? : Json → Option String
  | text value => value.toString?
  | _ => none

def ofTexts (texts : List String) : Json :=
  list (texts.map fun value => text (.ofString value))

mutual

/-- How many lists and objects are inside one another. -/
def depth : Json → Nat
  | list items => depthOfItems items + 1
  | object members => depthOfMembers members + 1
  | _ => 0

def depthOfItems : List Json → Nat
  | [] => 0
  | item :: rest => max item.depth (depthOfItems rest)

def depthOfMembers : List (LooseText × Json) → Nat
  | [] => 0
  | (_, value) :: rest => max value.depth (depthOfMembers rest)

end

/-- Whether the value is neither null, false, zero nor empty. -/
def isTruthy : Json → Bool
  | null => false
  | bool value => value
  | integer value => value != 0
  | real value => value != 0
  | text value => !value.isEmpty
  | list items => !items.isEmpty
  | object members => !members.isEmpty

/-- Whether the value can stand for an identity: anything but a list or an object. -/
def isAtomic : Json → Bool
  | list _ => false
  | object _ => false
  | _ => true

/-- The whole number that a value equals, with 1 for true and 0 for false. -/
def whole? : Json → Option Int
  | bool value => some (if value then 1 else 0)
  | integer value => some value
  | real value =>
    let b := Decimal.Binary.ofFloat value
    let size : Nat := b.mantissa * Nat.pow 2 b.exponent.toNat / Nat.pow 2 (-b.exponent).toNat
    if value.isFinite && value.floor == value then some (if value < 0 then -(size : Int) else size)
    else none
  | _ => none

/-- Whether two atomic values are the same identity. Numbers are compared by what they count; what
is not a number is the same as any other such value. -/
def sameAtom : Json → Json → Bool
  | null, null => true
  | text a, text b => a == b
  | real a, real b => a == b || a.isNaN && b.isNaN
  | a, b => match a.whole?, b.whole? with
    | some m, some n => m == n
    | _, _ => false

/-! ### Numbers as text -/

/-- A decimal in positional notation, with at least one digit after the point. -/
def positional (digits : List Char) (point : Int) : List Char :=
  if point ≤ 0 then '0' :: '.' :: (List.replicate (-point).toNat '0' ++ digits)
  else if digits.length ≤ point.toNat then
    digits ++ List.replicate (point.toNat - digits.length) '0' ++ ['.', '0']
  else digits.take point.toNat ++ '.' :: digits.drop point.toNat

/-- A decimal with an exponent of at least two digits. -/
def scientific (digits : List Char) (exponent : Int) : List Char :=
  let size := Nat.toDigits 10 exponent.natAbs
  digits.take 1 ++ (if digits.length = 1 then [] else '.' :: digits.drop 1)
    ++ ['e', if exponent < 0 then '-' else '+']
    ++ List.replicate (2 - size.length) '0' ++ size

/-- The shortest digits that read back; positional from 10^-4 up to 10^16. -/
def realDigits (x : Float) : List Char :=
  if x == 0 then "0.0".toList
  else
    let d := (Decimal.shortest (Decimal.Binary.ofFloat x)).trimmed
    let digits := Nat.toDigits 10 d.digits
    let leading := d.exponent + digits.length - 1
    if -4 ≤ leading && leading < 16 then positional digits (leading + 1)
    else scientific digits leading

/-- A floating-point number as text, with the given names for what is not finite. -/
def realText (infinity notANumber : String) (x : Float) : String :=
  if x.isNaN then notANumber
  else
    let sign := if x.toBits.toNat ≥ 0x8000000000000000 then "-" else ""
    if x.isInf then sign ++ infinity else sign ++ String.ofList (realDigits x)

/-! ### Values in messages -/

mutual

/-- A value as it is shown inside a list or an object. -/
def shownInside : Json → String
  | null => "None"
  | bool value => if value then "True" else "False"
  | integer value => toString value
  | real value => realText "inf" "nan" value
  | text value => value.quoted
  | list items => "[" ++ ", ".intercalate (shownItems items) ++ "]"
  | object members => "\x7b" ++ ", ".intercalate (shownMembers members) ++ "\x7d"

def shownItems : List Json → List String
  | [] => []
  | item :: rest => shownInside item :: shownItems rest

def shownMembers : List (LooseText × Json) → List String
  | [] => []
  | (name, value) :: rest => (name.quoted ++ ": " ++ shownInside value) :: shownMembers rest

end

/-- A value as messages show it: a text as it is, all else as inside a list. -/
def shown : Json → LooseText
  | text value => value
  | value => shownInside value

end Json

end ScriptDeps
