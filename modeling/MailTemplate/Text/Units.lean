/-! Text as 16-bit units: a character up to U+FFFF is one unit, any other is a pair of a leading
and a trailing one. Such a text may hold a half of a pair alone, which no character is. -/

namespace MailTemplate.Text

abbrev Units := List UInt16

namespace Units

def ofChar (c : Char) : Units :=
  let code := c.toNat
  if code < 0x10000 then [UInt16.ofNat code]
  else
    let offset := code - 0x10000
    [UInt16.ofNat (0xD800 + offset / 0x400), UInt16.ofNat (0xDC00 + offset % 0x400)]

def ofString (text : String) : Units :=
  text.toList.flatMap ofChar

def isLeading (unit : UInt16) : Bool :=
  0xD800 ≤ unit && unit ≤ 0xDBFF

def isTrailing (unit : UInt16) : Bool :=
  0xDC00 ≤ unit && unit ≤ 0xDFFF

def pair (leading trailing : UInt16) : Char :=
  Char.ofNat (0x10000 + (leading.toNat - 0xD800) * 0x400 + (trailing.toNat - 0xDC00))

/-- The characters of a text, and the halves of pairs that stand alone. -/
def toChars : Units → List (Except UInt16 Char)
  | [] => []
  | [unit] => [single unit]
  | unit :: next :: units =>
    if isLeading unit && isTrailing next then .ok (pair unit next) :: toChars units
    else single unit :: toChars (next :: units)
where
  single (unit : UInt16) : Except UInt16 Char :=
    if isLeading unit || isTrailing unit then .error unit else .ok (Char.ofNat unit.toNat)

/-- The text as characters, or how many bytes of UTF-8 come before a half of a pair. -/
def toString? (units : Units) : Except Nat String :=
  go [] (toChars units)
where
  go (read : List Char) : List (Except UInt16 Char) → Except Nat String
    | [] => .ok (String.ofList read.reverse)
    | .ok c :: cs => go (c :: read) cs
    | .error _ :: _ => .error (String.ofList read).utf8ByteSize

/-- The text as characters, with U+FFFD for each half of a pair that stands alone. -/
def toText (units : Units) : String :=
  String.ofList ((toChars units).map fun
    | .ok c => c
    | .error _ => '\ufffd')

def mapChars (f : Char → List Char) (units : Units) : Units :=
  (toChars units).flatMap fun
    | .ok c => (f c).flatMap ofChar
    | .error unit => [unit]

/-- The order of dictionaries, by units. -/
def less : Units → Units → Bool
  | [], [] => false
  | [], _ :: _ => true
  | _ :: _, [] => false
  | a :: as, b :: bs => if a == b then less as bs else a < b

end Units

end MailTemplate.Text
