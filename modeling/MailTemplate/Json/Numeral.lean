import MailTemplate.Json.Error

/-! Numbers as they are written. A number that is not whole, or too large for a word, is read
from its leading digits, as many as a word holds, and scaled once by a power of ten. -/

namespace MailTemplate.Json

structure Numeral where
  negative : Bool
  integral : List Char
  fraction : List Char
  /-- The power of ten; none if the number is written without one. -/
  exponent : Option Int
  deriving DecidableEq

namespace Numeral

/-- The digits at the head of a text, at least one, and the text after them. -/
def takeDigits (cs : List Char) : Except Fault (List Char × List Char) :=
  match cs.span Char.isDigit with
  | ([], []) => .error .endInValue
  | ([], _ :: _) => .error .invalidNumber
  | (digits, rest) => .ok (digits, rest)

/-- A zero is not followed by a digit. -/
def takeIntegral : List Char → Except Fault (List Char × List Char)
  | '0' :: cs => if cs.head?.any Char.isDigit then .error .invalidNumber else .ok (['0'], cs)
  | cs => takeDigits cs

def takeFraction : List Char → Except Fault (List Char × List Char)
  | '.' :: cs => takeDigits cs
  | cs => .ok ([], cs)

def valueOf (digits : List Char) : Nat :=
  digits.foldl (fun n c => 10 * n + (c.toNat - '0'.toNat)) 0

def takeSigned (cs : List Char) : Except Fault (Int × List Char) :=
  match cs with
  | '-' :: cs => (takeDigits cs).map fun (digits, rest) => (-(valueOf digits : Int), rest)
  | '+' :: cs => (takeDigits cs).map fun (digits, rest) => ((valueOf digits : Int), rest)
  | cs => (takeDigits cs).map fun (digits, rest) => ((valueOf digits : Int), rest)

def takeExponent : List Char → Except Fault (Option Int × List Char)
  | [] => .ok (none, [])
  | c :: cs =>
    if c == 'e' || c == 'E' then (takeSigned cs).map fun (n, rest) => (some n, rest)
    else .ok (none, c :: cs)

def takeUnsigned (negative : Bool) (cs : List Char) : Except Fault (Numeral × List Char) := do
  let (integral, cs) ← takeIntegral cs
  let (fraction, cs) ← takeFraction cs
  let (exponent, cs) ← takeExponent cs
  return (⟨negative, integral, fraction, exponent⟩, cs)

/-- The number at the head of a text, and the text after it. -/
def take : List Char → Except Fault (Numeral × List Char)
  | '-' :: cs => takeUnsigned true cs
  | cs => takeUnsigned false cs

/-- As many of the digits as keep the number `n` in a word, and how many are left. -/
def accumulate (n : Nat) : List Char → Nat × Nat
  | [] => (n, 0)
  | c :: cs =>
    let next := 10 * n + (c.toNat - '0'.toNat)
    if next < UInt64.size then accumulate next cs else (n, cs.length + 1)

def powerOfTen (n : Nat) : Float :=
  Float.ofScientific 1 false n

/-- The largest power of ten that is a number. -/
def largestPower : Nat := 308

/-- Divides by the largest power of ten until the rest of the exponent is one. -/
def scaleDown : Nat → Float → Nat → Float
  | 0, x, _ => x
  | fuel + 1, x, exponent =>
    if exponent ≤ largestPower then x / powerOfTen exponent
    else scaleDown fuel (x / powerOfTen largestPower) (exponent - largestPower)

/-- The float `n * 10 ^ exponent`. Three divisions by the largest power of ten make every word
zero. -/
def scaled (n : UInt64) (exponent : Int) : Except Fault Float :=
  let x := n.toFloat
  if exponent < 0 then .ok (scaleDown 3 x exponent.natAbs)
  else if exponent.natAbs ≤ largestPower then
    let product := x * powerOfTen exponent.natAbs
    if product.isInf then .error .numberOutOfRange else .ok product
  else if n == 0 then .ok 0 else .error .numberOutOfRange

def float (numeral : Numeral) : Except Fault Number := do
  let (n, dropped) := accumulate 0 numeral.integral
  let (n, unread) := accumulate n numeral.fraction
  let places : Int := numeral.fraction.length - unread
  let x ← scaled (UInt64.ofNat n) (dropped - places + numeral.exponent.getD 0)
  return .float (if numeral.negative then -x else x)

/-- Whole numbers in range are exact; there is no whole number for `-0`. -/
def number (numeral : Numeral) : Except Fault Number :=
  if numeral.fraction.isEmpty && numeral.exponent.isNone then
    let n := valueOf numeral.integral
    if numeral.negative then
      if h : 0 < n ∧ n - 1 < 0x8000000000000000 then .ok (.negSucc ⟨n - 1, h.2⟩) else numeral.float
    else if n < UInt64.size then .ok (.natural (UInt64.ofNat n))
    else numeral.float
  else numeral.float

end Numeral

end MailTemplate.Json
