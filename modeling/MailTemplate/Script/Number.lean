import MailTemplate.Decimal.Layout
import MailTemplate.Decimal.Rounded
import MailTemplate.Script.Lexeme

/-! Numbers of the script language. All of them are floating-point numbers to a program; that a
whole number is kept in a word is only seen from outside. -/

namespace MailTemplate.Script

open Text (Units)

structure Number where
  value : Float
  /-- Whether it is kept as a whole number of 32 bits with a sign. -/
  inWord : Bool
  deriving Inhabited

namespace Number

def fitsWord (x : Float) : Bool :=
  x.floor == x && -2147483648 ≤ x && x ≤ 2147483647 && !(x == 0 && x.toBits != 0)

/-- A number that is kept in a word if it fits. -/
def ofFloat (x : Float) : Number :=
  ⟨x, fitsWord x⟩

def ofNat (n : Nat) : Number :=
  ofFloat (Float.ofNat n)

/-- What is computed from floating-point numbers is not moved into a word. -/
def map (f : Float → Float) (n : Number) : Number :=
  if n.inWord then ofFloat (f n.value) else ⟨f n.value, false⟩

def map₂ (f : Float → Float → Float) (m n : Number) : Number :=
  if m.inWord && n.inWord then ofFloat (f m.value n.value) else ⟨f m.value n.value, false⟩

def layout : Decimal.Layout where
  plainFrom := -6
  plainBelow := 21
  pointZero := false
  signedZero := false

def text (n : Number) : String :=
  let x := n.value
  if x.isNaN then "NaN"
  else if x.isInf then (if x < 0 then "-Infinity" else "Infinity")
  else layout.finite Decimal.rounded x

def infinity : Float := 1 / 0

def nan : Float := 0 / 0

/-! ## Numbers in texts -/

/-- A decimal number, with or without a sign, and nothing after it. -/
def ofDecimal (cs : List Char) : Float :=
  let (negative, cs) := match cs with
    | '-' :: cs => (true, cs)
    | '+' :: cs => (false, cs)
    | cs => (false, cs)
  let x :=
    if String.ofList cs == "Infinity" then infinity
    else match Lexeme.takeDecimalNumber false cs with
      | some (x, []) => x
      | _ => nan
  if negative then -x else x

/-- The number that a text holds: white space around it does not count, and there is a zero in an
empty text. -/
def ofUnits (units : Units) : Float :=
  let isSpace (c : Char) : Bool := Lexeme.isSpace c || Lexeme.isLineBreak c
  let cs := (((Units.toText units).toList.dropWhile isSpace).reverse.dropWhile isSpace).reverse
  match Lexeme.takeBase? cs with
  | some (base, cs) =>
    match Lexeme.takeDigits false base cs with
    | some (x, []) => x
    | _ => nan
  | none => if cs.isEmpty then 0 else ofDecimal cs

/-! ## Division -/

/-- The remainder of a division that is rounded toward zero. It is exact: both numbers are whole
in units of the smaller power of two. -/
def remainder (x y : Float) : Float :=
  if x.isNaN || y.isNaN || x.isInf || y == 0 then nan
  else if y.isInf || x == 0 then x
  else
    let a := Decimal.Binary.ofFloat x
    let b := Decimal.Binary.ofFloat y
    let exponent := min a.exponent b.exponent
    let scaled (n : Decimal.Binary) : Nat := n.mantissa <<< (n.exponent - exponent).toNat
    let rest := scaled a % scaled b
    let size := Float.scaleB (Float.ofNat rest) exponent
    if x < 0 then -size else size

end Number

end MailTemplate.Script
