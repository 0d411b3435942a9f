import MailTemplate.Decimal.Shortest

/-! How the digits of a number are laid out: with a point in its place, or with a power of ten
if that would take too many zeros. -/

namespace MailTemplate.Decimal

structure Layout where
  /-- The smallest power of ten for the first digit that is written with a point. -/
  plainFrom : Int
  /-- From this power of ten on a number is written with an exponent. -/
  plainBelow : Int
  /-- Whether a whole number ends with `.0`. -/
  pointZero : Bool
  /-- Whether a negative zero has its sign. -/
  signedZero : Bool

namespace Layout

def digitsOf (n : Nat) : String :=
  String.ofList (Nat.toDigits 10 n)

def zeros (count : Nat) : String :=
  String.ofList (List.replicate count '0')

/-- A whole number, with its fraction if the layout wants one. -/
def whole (layout : Layout) (digits : String) : String :=
  if layout.pointZero then digits ++ ".0" else digits

def signedExponent (exponent : Int) : String :=
  (if exponent < 0 then "-" else "+") ++ digitsOf exponent.natAbs

/-- The digits `d` with the exponent `leading` for the first of them. -/
def place (layout : Layout) (d : List Char) (leading : Int) : String :=
  if layout.plainFrom ≤ leading && leading < layout.plainBelow then
    if leading < 0 then "0." ++ zeros (-leading - 1).toNat ++ String.ofList d
    else
      let integral := leading.toNat + 1
      if d.length ≤ integral then
        layout.whole (String.ofList d ++ zeros (integral - d.length))
      else String.ofList (d.take integral) ++ "." ++ String.ofList (d.drop integral)
  else
    let fraction := match d.drop 1 with
      | [] => ""
      | more => "." ++ String.ofList more
    String.ofList (d.take 1) ++ fraction ++ "e" ++ signedExponent leading

def scientific (layout : Layout) (d : Scientific) : String :=
  let digits := Nat.toDigits 10 d.digits
  layout.place digits (d.exponent + digits.length - 1)

/-- A finite number, with the digits that `digits` chooses for a number other than zero. -/
def finite (layout : Layout) (digits : Float → Scientific) (x : Float) : String :=
  let negative := x.toBits ≥ 0x8000000000000000
  if x == 0 then (if negative && layout.signedZero then "-" else "") ++ layout.whole "0"
  else (if negative then "-" else "") ++ layout.scientific (digits x)

end Layout

end MailTemplate.Decimal
