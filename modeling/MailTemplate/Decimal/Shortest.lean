/-! The shortest decimal of a floating-point number: of all decimals that read back as the
number, one with the fewest digits, and of those the nearest one. -/

namespace MailTemplate.Decimal

/-- The number `digits * 10 ^ exponent`. -/
structure Scientific where
  digits : Nat
  exponent : Int
  deriving DecidableEq, Inhabited

/-- A finite number as `mantissa * 2 ^ exponent`. The gap to the next smaller number is half as
wide as the one to the next larger number if `narrowBelow`. -/
structure Binary where
  mantissa : Nat
  exponent : Int
  narrowBelow : Bool
  deriving DecidableEq, Inhabited

def leadingBit : Nat := 1 <<< 52

def Binary.ofFloat (x : Float) : Binary :=
  let bits := x.toBits.toNat
  let fraction := bits % leadingBit
  let exponent : Nat := bits / leadingBit % 0x800
  if exponent == 0 then ⟨fraction, -1074, false⟩
  else ⟨leadingBit + fraction, (exponent : Int) - 1075, fraction == 0 && 1 < exponent⟩

/-- The numbers that read back as a number: they lie between `low / unit` and `high / unit`,
the two ends included if `closed`, and around `middle / unit`. -/
structure Interval where
  low : Nat
  middle : Nat
  high : Nat
  unit : Nat
  closed : Bool

namespace Interval

/-- The ends lie half-way to the neighbours; a number half-way between two goes to the one with
an even mantissa. -/
def ofBinary (b : Binary) : Interval :=
  let scale (n : Nat) := n <<< (b.exponent - 2).toNat
  { low := scale (4 * b.mantissa - if b.narrowBelow then 1 else 2)
    middle := scale (4 * b.mantissa)
    high := scale (4 * b.mantissa + 2)
    unit := 1 <<< (2 - b.exponent).toNat
    closed := b.mantissa % 2 == 0 }

def inUnitsOf (i : Interval) (exponent : Int) : Interval :=
  let scale (n : Nat) := n * Nat.pow 10 (-exponent).toNat
  { i with
    low := scale i.low
    middle := scale i.middle
    high := scale i.high
    unit := i.unit * Nat.pow 10 exponent.toNat }

def holds (i : Interval) (n : Nat) : Bool :=
  if i.closed then i.low ≤ n * i.unit && n * i.unit ≤ i.high
  else i.low < n * i.unit && n * i.unit < i.high

/-- The whole number in the interval that is nearest to its middle; of two that are equally
near, the even one. -/
def nearest? (i : Interval) : Option Nat :=
  let below := i.middle / i.unit
  let twiceRest := 2 * (i.middle % i.unit)
  let above := below + 1
  match i.holds below, i.holds above with
  | true, true =>
    if twiceRest < i.unit || (twiceRest == i.unit && below % 2 == 0) then some below
    else some above
  | true, false => some below
  | false, true => some above
  | false, false => none

def leadingExponent (i : Interval) : Int :=
  ((Nat.toDigits 10 (i.middle * Nat.pow 10 400 / i.unit)).length : Int) - 401

end Interval

def Scientific.strip : Nat → Scientific → Scientific
  | 0, d => d
  | count + 1, d =>
    if d.digits % 10 == 0 then strip count ⟨d.digits / 10, d.exponent + 1⟩ else d

/-- The numbers with `1`, `2`, … `17` digits are tried in turn; seventeen are always enough. -/
def shortestOf (b : Binary) : Scientific :=
  let i := Interval.ofBinary b
  let leading := i.leadingExponent
  let found := (List.range 17).findSome? fun (more : Nat) =>
    let exponent := leading - (more : Int)
    (i.inUnitsOf exponent).nearest?.map fun digits => Scientific.mk digits exponent
  (found.getD ⟨0, 0⟩).strip 17

def shortest (x : Float) : Scientific :=
  shortestOf (.ofFloat x)

end MailTemplate.Decimal
