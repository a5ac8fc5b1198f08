/-!
# Shortest decimals

The shortest decimal that reads back as a binary floating-point number. A finite number is
`m * 2 ^ q`; the decimals that read back as it fill an interval around it, whose ends belong to it
when `m` is even. For 1, 2, … 17 digits the two neighbours of the number on that decimal grid are
tried; the first grid with a neighbour inside the interval gives the digits, the nearer of two.
-/

namespace ScriptDeps.Decimal

/-- The decimal `digits * 10 ^ exponent`. -/
structure Scaled where
  digits : Nat
  exponent : Int
  deriving DecidableEq, Repr

/-- The binary number `mantissa * 2 ^ exponent`. -/
structure Binary where
  mantissa : Nat
  exponent : Int
  deriving DecidableEq, Repr

def Binary.ofFloat (x : Float) : Binary :=
  let bits := x.toBits.toNat
  let fraction : Nat := bits % Nat.pow 2 52
  let biased : Nat := bits / Nat.pow 2 52 % Nat.pow 2 11
  if biased = 0 then ⟨fraction, -1074⟩ else ⟨fraction + Nat.pow 2 52, (biased : Int) - 1075⟩

/-- A positive rational, scaled so that the number's rounding interval has whole ends. -/
structure Interval where
  low : Nat
  value : Nat
  high : Nat
  unit : Nat
  closed : Bool

/-- The decimals that read back as the number, in `unit`s to the whole. -/
def Binary.interval (b : Binary) : Interval :=
  let below := if b.mantissa = Nat.pow 2 52 && b.exponent != -1074 then 1 else 2
  let up := Nat.pow 2 (b.exponent - 2).toNat
  { low := (4 * b.mantissa - below) * up
    value := 4 * b.mantissa * up
    high := (4 * b.mantissa + 2) * up
    unit := Nat.pow 2 (2 - b.exponent).toNat
    closed := b.mantissa % 2 == 0 }

/-- Whether `digits * 10 ^ exponent` reads back as the number. -/
def Interval.holds (i : Interval) (d : Scaled) : Bool :=
  let point := d.digits * Nat.pow 10 d.exponent.toNat * i.unit
  let scale := Nat.pow 10 (-d.exponent).toNat
  if i.closed then i.low * scale ≤ point && point ≤ i.high * scale
  else i.low * scale < point && point < i.high * scale

/-- The greatest multiple of `10 ^ exponent` that is not above the number. -/
def Interval.floorAt (i : Interval) (exponent : Int) : Scaled :=
  ⟨i.value * Nat.pow 10 (-exponent).toNat / (i.unit * Nat.pow 10 exponent.toNat), exponent⟩

/-- Whether the multiple after `d` is nearer to the number than `d`; of a tie, whether `d` is odd. -/
def Interval.nextIsNearer (i : Interval) (d : Scaled) : Bool :=
  let scale := Nat.pow 10 (-d.exponent).toNat
  let middle := (2 * d.digits + 1) * Nat.pow 10 d.exponent.toNat * i.unit
  let value := 2 * i.value * scale
  middle < value || (middle == value && d.digits % 2 == 1)

/-- The neighbour on a decimal grid that reads back as the number, if there is one. -/
def Interval.onGrid? (i : Interval) (exponent : Int) : Option Scaled :=
  let below := i.floorAt exponent
  let above : Scaled := ⟨below.digits + 1, exponent⟩
  if i.holds below && i.holds above then some (if i.nextIsNearer below then above else below)
  else if i.holds below then some below
  else if i.holds above then some above
  else none

def Interval.magnitude (i : Interval) : Int :=
  if i.unit ≤ i.value then ((Nat.toDigits 10 (i.value / i.unit)).length : Int) - 1
  else -(((List.range 400).find? fun k => i.unit ≤ i.value * Nat.pow 10 k).getD 400 : Nat)

/-- The shortest decimal that reads back as a positive number. -/
def shortest (b : Binary) : Scaled :=
  let i := b.interval
  ((List.range 17).findSome? fun k => i.onGrid? (i.magnitude - (k : Nat))).getD (i.floorAt (i.magnitude - 16))

def Scaled.trimmed (d : Scaled) : Scaled :=
  let zeros := ((Nat.toDigits 10 d.digits).reverse.takeWhile (· == '0')).length
  ⟨d.digits / Nat.pow 10 zeros, d.exponent + zeros⟩

end ScriptDeps.Decimal
