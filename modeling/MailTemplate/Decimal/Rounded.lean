import MailTemplate.Decimal.Shortest

/-! Decimals with a given number of digits, and a short one among those that read back as a
number. Its number of digits is found by halving, as if every number of digits beyond one that
is enough were enough as well; where that is not so, the decimal is longer than the shortest. -/

namespace MailTemplate.Decimal

namespace Interval

/-- The middle in so many digits, of which the first has the exponent `leading`. Half-way between
two decimals it is the one with an even digit at the end. -/
def rounded (i : Interval) (leading : Int) (count : Nat) : Scientific :=
  let exponent := leading - (count : Int) + 1
  let i := i.inUnitsOf exponent
  let below := i.middle / i.unit
  let twiceRest := 2 * (i.middle % i.unit)
  let isAbove := i.unit < twiceRest || (twiceRest == i.unit && below % 2 == 1)
  ⟨if isAbove then below + 1 else below, exponent⟩

def reads (i : Interval) (d : Scientific) : Bool :=
  (i.inUnitsOf d.exponent).holds d.digits

end Interval

def Scientific.digitCount (d : Scientific) : Nat :=
  (Nat.toDigits 10 (d.strip 17).digits).length

/-- A number of digits between `low` and `high` that is enough for the middle, if `high` is. -/
def sufficientCount (i : Interval) (leading : Int) : Nat → Nat → Nat → Nat
  | 0, _, high => high
  | fuel + 1, low, high =>
    if low < high then
      let count := (low + high) / 2
      let d := i.rounded leading count
      if i.reads d then sufficientCount i leading fuel low d.digitCount
      else sufficientCount i leading fuel (count + 1) high
    else high

/-- Seventeen digits are always enough, and so many steps to find a number of them. -/
def roundedOf (b : Binary) : Scientific :=
  let i := Interval.ofBinary b
  let leading := i.leadingExponent
  (i.rounded leading (sufficientCount i leading 17 1 17)).strip 17

def rounded (x : Float) : Scientific :=
  roundedOf (.ofFloat x)

end MailTemplate.Decimal
