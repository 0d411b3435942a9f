import MailTemplate.Decimal.Layout

/-! JSON values. -/

namespace MailTemplate.Json

/-- Whole numbers are kept exactly in the range of 64-bit words; all other numbers are floating
point. -/
inductive Number where
  | natural (n : UInt64)
  /-- The number `-(n + 1)`. -/
  | negSucc (n : Fin 0x8000000000000000)
  | float (x : Float)
  deriving Inhabited

namespace Number

/-- Numbers have at least one decimal. -/
def layout : Decimal.Layout where
  plainFrom := -5
  plainBelow := 16
  pointZero := true
  signedZero := true

def text : Number → String
  | natural n => Decimal.Layout.digitsOf n.toNat
  | negSucc n => "-" ++ Decimal.Layout.digitsOf (n.val + 1)
  | float x => layout.finite Decimal.shortest x

def toFloat : Number → Float
  | natural n => n.toFloat
  | negSucc n => -(UInt64.ofNat (n.val + 1)).toFloat
  | float x => x

end Number

inductive Value where
  | null
  | bool (b : Bool)
  | number (n : Number)
  | string (text : String)
  | array (items : List Value)
  | object (members : List (String × Value))
  deriving Inhabited

/-- Members of an object. -/
abbrev Members := List (String × Value)

namespace Members

/-- Adds a member in its place, or replaces the one that has its key. -/
def insert (key : String) (value : Value) : Members → Members
  | [] => [(key, value)]
  | (other, old) :: members =>
    if key < other then (key, value) :: (other, old) :: members
    else if key = other then (key, value) :: members
    else (other, old) :: insert key value members

end Members

end MailTemplate.Json
