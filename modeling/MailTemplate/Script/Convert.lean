import MailTemplate.Script.Value
import MailTemplate.Text.Case
import MailTemplate.Text.CaseContext

/-! Values as texts, numbers and truth values. An object may say by a function of its own what
text it is, so every conversion is given a way to call functions. -/

namespace MailTemplate.Script

open Text (Units)

/-- A way to call functions on an object and arguments. -/
structure Call where
  /-- How many calls may be running inside of each other. -/
  depth : Nat
  apply : Value → Value → List Value → Run Value

instance : CoeFun Call fun _ => Value → Value → List Value → Run Value := ⟨Call.apply⟩

namespace Convert

/-- The kind of value that is asked for first where an object could be both. -/
inductive Hint where
  | text
  | number
  deriving DecidableEq, Inhabited

def boolText (b : Bool) : Units :=
  Units.ofString (if b then "true" else "false")

def symbolText (description : Units) : Units :=
  Units.ofString "Symbol(" ++ description ++ Units.ofString ")"

/-- The text of a function that is there without a program, and of any other. -/
def functionText (name : String) : Units :=
  Units.ofString ("function " ++ name ++ "() \x7b\n    [native code]\n\x7d")

/-- The name and the message, which may be empty. -/
def errorText (kind : ErrorKind) (message : Units) : Units :=
  if message.isEmpty then Units.ofString kind.name
  else Units.ofString (kind.name ++ ": ") ++ message

def taggedText (tag : String) : Units :=
  Units.ofString ("[object " ++ tag ++ "]")

def tag : Value → String
  | .undefined => "Undefined"
  | .null => "Null"
  | .bool _ | .intrinsic (.prototype .bool) => "Boolean"
  | .number _ | .intrinsic (.prototype .number) => "Number"
  | .text _ | .intrinsic (.prototype .text) => "String"
  | .symbol .. | .intrinsic (.prototype .symbol) => "Symbol"
  | .array .. | .intrinsic (.prototype .array) => "Array"
  | .error .. => "Error"
  | .function .. | .builtin _ | .intrinsic (.prototype .function) => "Function"
  | .intrinsic (.named name) => name
  | .object .. | .globals | .intrinsic (.prototype _) => "Object"

def prototypeText : Family → Units
  | .object => taggedText "Object"
  | .function => functionText ""
  | .array | .text => []
  | .number => Units.ofString "0"
  | .bool => boolText false
  | .symbol => taggedText "Symbol"
  | .error kind => errorText kind []

def simpleText : Value → Run Units
  | .undefined => return Units.ofString "undefined"
  | .null => return Units.ofString "null"
  | .bool b => return boolText b
  | .number n => return Units.ofString n.text
  | .text units => return units
  | .symbol .. => Run.raiseType "cannot convert symbol to string"
  | .error _ kind message => return errorText kind message
  | .function _ name _ => return functionText (name.getD "")
  | .builtin function => return functionText function.name
  | .intrinsic (.prototype family) => return prototypeText family
  | value => return taggedText (tag value)

/-- Tries the methods of an object in turn until one gives a primitive value. -/
def objectPrimitive (call : Call) (object : Value) : List String → Run Value
  | [] => Run.raiseType "toPrimitive"
  | method :: methods => do
    let function ← member (Units.ofString method) object
    if function.isFunction then
      let value ← call function object []
      if value.isPrimitive then return value
    objectPrimitive call object methods

def Hint.methods : Hint → List String
  | text => ["toString", "valueOf"]
  | number => ["valueOf", "toString"]

/-- Whether a value has methods by which it is converted, which a program may replace. -/
def hasMethods : Value → Bool
  | .object .. | .globals => true
  | _ => false

/-- The depth inside of an array, which is a text by a call for itself and one for its items. -/
def descend (depth : Nat) : Run Nat :=
  if depth < 2 then Run.overflow else return depth - 2

mutual

/-- The text of a value where so many calls may be running inside of each other. -/
def textAt (call : Call) (depth : Nat) : Value → Run Units
  | .array _ items => do joinItems call (← descend depth) (Units.ofString ",") items
  | value => do
    if hasMethods value then simpleText (← objectPrimitive call value Hint.text.methods)
    else simpleText value

def joinItems (call : Call) (depth : Nat) (separator : Units) : List Value → Run Units
  | [] => return []
  | [item] => itemText call depth item
  | item :: items => do
    let first ← itemText call depth item
    return first ++ separator ++ (← joinItems call depth separator items)

/-- There is no text in the place of a missing item. -/
def itemText (call : Call) (depth : Nat) : Value → Run Units
  | .undefined | .null => return []
  | .array _ items => do joinItems call (← descend depth) (Units.ofString ",") items
  | value => do
    if hasMethods value then simpleText (← objectPrimitive call value Hint.text.methods)
    else simpleText value

end

def toText (call : Call) (value : Value) : Run Units :=
  textAt call call.depth value

def toPrimitive (call : Call) (hint : Hint) (value : Value) : Run Value := do
  if hasMethods value then objectPrimitive call value hint.methods
  else if value.isPrimitive then return value
  else return .text (← toText call value)

def primitiveNumber : Value → Run Number
  | .null => return .ofNat 0
  | .bool b => return .ofNat (if b then 1 else 0)
  | .number n => return n
  | .text units => return .ofFloat (Number.ofUnits units)
  | .symbol .. => Run.raiseType "cannot convert symbol to number"
  | _ => return .ofFloat Number.nan

def toNumber (call : Call) (value : Value) : Run Number := do
  primitiveNumber (← toPrimitive call .number value)

/-! ## The case of texts -/

/-- A character, or a half of a pair that stands alone. -/
abbrev Piece := Except UInt16 Char

/-- Whether the first piece that decides on the form of a letter beside it has a case. -/
def meetsCased (pieces : List Piece) : Bool :=
  let holds (p : Char → Bool) : Piece → Bool
    | .ok c => p c
    | .error _ => false
  (pieces.dropWhile (holds Text.isCaseIgnorable)).head?.any (holds Text.isCased)

def isSigma (c : Char) : Bool :=
  c == '\u03a3'

/-- The lower case of the pieces after those in `before`, which are in reverse. A sigma at the end
of a word has a form of its own, and halves of pairs stay. -/
def lowercaseFrom (before : List Piece) : List Piece → Units
  | [] => []
  | .error unit :: pieces => unit :: lowercaseFrom (.error unit :: before) pieces
  | .ok c :: pieces =>
    let lower :=
      if isSigma c && meetsCased before && !meetsCased pieces then ['\u03c2']
      else Text.lowercaseIn15 c
    lower.flatMap Units.ofChar ++ lowercaseFrom (.ok c :: before) pieces

def toLowerCase (units : Units) : Units :=
  lowercaseFrom [] (Units.toChars units)

def toUpperCase (units : Units) : Units :=
  Units.mapChars Text.uppercaseIn15 units

end Convert

end MailTemplate.Script
