import MailTemplate.Script.Convert
import MailTemplate.Script.Grammar

/-! Running a program. Evaluation follows the program; only calls and loops do not, and each of
these has a limit, at which an error is thrown. -/

namespace MailTemplate.Script

open Text (Units)

namespace Evaluate

/-! ## Functions that are there without a program -/

/-- The number of units that a text has at most. -/
def maxTextLength : Nat := 0x3fffffff

/-- The memory for a text: a byte for a unit, and two if one of the units needs them. -/
def bytesFor (units : Units) : Nat :=
  if units.all (· < 256) then units.length else 2 * units.length

def repeatUnits (units : Units) : Nat → Units
  | 0 => []
  | count + 1 => units ++ repeatUnits units count

def repeatText (call : Call) (units : Units) (count : Value) : Run Value := do
  let count := (← Convert.toNumber call count).value.toInt64
  if count < 0 || 2147483647 < count then
    Run.raise .rangeError (Units.ofString "invalid repeat count")
  let count := count.toNatClampNeg
  if maxTextLength < count * units.length then
    Run.raise .rangeError (Units.ofString "invalid string length")
  let memory := (← get).limits.memoryLimit.map UInt64.toNat
  if memory.any fun limit => limit < Limits.globalsMemory + count * bytesFor units then
    Run.raiseInternal "out of memory"
  return .text (repeatUnits units count)

/-- What is wrong with a text that has a half of a pair after so many bytes. -/
def conversionFault (bytes : Nat) : String :=
  "Conversion from string failed: invalid utf-8 sequence of 1 bytes from index " ++
    Decimal.Layout.digitsOf bytes

def outsideText (call : Call) (value : Value) : Run String := do
  match Units.toString? (← Convert.toText call value) with
  | .ok text => return text
  | .error bytes => Run.raiseType (conversionFault bytes)

def logRecord (level : Log.Level) (texts : List String) : Log.Record where
  level := level
  source := .console
  message := "[template] " ++ " ".intercalate texts

def newObject (prototype : Value) : Run Value :=
  return .object (← Run.freshId) prototype []

def callConstructor (call : Call) (arguments : List Value) : Family → Run Value
  | .object => do
    let value := arguments.headD .undefined
    if value.isNullish then newObject (.prototypeOf .object) else return value
  | .text => do
    match arguments with
    | [] => return .text []
    | .symbol _ description :: _ => return .text (Convert.symbolText description)
    | value :: _ => return .text (← Convert.toText call value)
  | .number => do
    match arguments with
    | [] => return .number (.ofNat 0)
    | value :: _ => return .number (← Convert.toNumber call value)
  | .bool => return .bool (arguments.headD .undefined).isTruthy
  | .symbol => do
    let description ← describe
    return .symbol (← Run.freshId) description
  | .error kind => do
    let message ← describe
    return .error (← Run.freshId) kind message
  | .function | .array => return .undefined
where
  describe : Run Units :=
    match arguments.headD .undefined with
    | .undefined => return []
    | value => Convert.toText call value

/-- The text of a value that a method of a family gives. -/
def describe (call : Call) (this : Value) : Family → Run Units
  | .object => return Convert.taggedText (Convert.tag this)
  | .function => do
    if !this.isFunction then Run.raiseType "not a function"
    Convert.toText call this
  | .symbol => do
    match this with
    | .symbol _ description => return Convert.symbolText description
    | _ => Run.raiseType "not a symbol"
  | .array | .error _ => do
    if Convert.hasMethods this then return Convert.taggedText (Convert.tag this)
    else Convert.toText call this
  | .text | .number | .bool => do
    if !this.isPrimitive then Run.raiseType "not a primitive value"
    Convert.toText call this

/-- Nothing is no text on which a method is called. -/
def receivedText (call : Call) (this : Value) : Run Units := do
  if this.isNullish then Run.raiseType "null or undefined are forbidden"
  Convert.toText call this

def callMethod (call : Call) (this : Value) (arguments : List Value) (family : Family)
    (name : String) : Run Value := do
  match family, name with
  | .array, "join" =>
    if this.isNullish then Run.raiseType "cannot convert to object"
    let separator ← match arguments.headD .undefined with
      | .undefined => pure (Units.ofString ",")
      | value => Convert.toText call value
    match this with
    | .array _ items => return .text (← Convert.joinItems call call.depth separator items)
    | _ => return .text []
  | .text, "toUpperCase" => return .text (Convert.toUpperCase (← receivedText call this))
  | .text, "toLowerCase" => return .text (Convert.toLowerCase (← receivedText call this))
  | .text, "repeat" => repeatText call (← receivedText call this) (arguments.headD .undefined)
  | family, "toString" => return .text (← describe call this family)
  | _, "valueOf" =>
    if this.isNullish then Run.raiseType "cannot convert to object"
    return this
  | _, _ => return .undefined

def callBuiltin (call : Call) (this : Value) (arguments : List Value) : Builtin → Run Value
  | .constructor family => callConstructor call arguments family
  | .method family name => callMethod call this arguments family name
  | .createObject => do
    let prototype := arguments.headD .undefined
    if prototype.isPrimitive && !prototype.isNull then Run.raiseType "not a prototype"
    newObject prototype
  | .log _ level => do
    let texts ← arguments.mapM (outsideText call)
    record (logRecord level texts)
    return .undefined
  | .other _ | .owned .. => return .undefined

/-! ## Operators -/

def isText : Value → Bool
  | .text _ => true
  | _ => false

/-- A text joined to any value is a text. -/
def add (call : Call) (left right : Value) : Run Value := do
  let left ← Convert.toPrimitive call .number left
  let right ← Convert.toPrimitive call .number right
  if isText left || isText right then
    let left ← Convert.simpleText left
    return .text (left ++ (← Convert.simpleText right))
  else
    let left ← Convert.primitiveNumber left
    return .number (left.map₂ (· + ·) (← Convert.primitiveNumber right))

def arithmetic (call : Call) (operation : Float → Float → Float) (left right : Value) :
    Run Value := do
  let left ← Convert.toNumber call left
  return .number (left.map₂ operation (← Convert.toNumber call right))

/-- Two texts are compared by their units, all other values as numbers. -/
def compare (call : Call) (texts : Units → Units → Bool) (numbers : Float → Float → Bool)
    (left right : Value) : Run Value := do
  let left ← Convert.toPrimitive call .number left
  let right ← Convert.toPrimitive call .number right
  match left, right with
  | .text left, .text right => return .bool (texts left right)
  | left, right =>
    let left ← Convert.primitiveNumber left
    return .bool (numbers left.value (← Convert.primitiveNumber right).value)

def binary (call : Call) : BinaryOperator → Value → Value → Run Value
  | .add => add call
  | .subtract => arithmetic call (· - ·)
  | .multiply => arithmetic call (· * ·)
  | .divide => arithmetic call (· / ·)
  | .remainder => arithmetic call Number.remainder
  | .less => compare call Units.less (· < ·)
  | .lessEqual => compare call (fun a b => !Units.less b a) (· ≤ ·)
  | .greater => compare call (fun a b => Units.less b a) (· > ·)
  | .greaterEqual => compare call (fun a b => !Units.less a b) (· ≥ ·)
  | .same => fun left right => return .bool (left.same right)
  | .notSame => fun left right => return .bool (!left.same right)

def unary (call : Call) : UnaryOperator → Value → Run Value
  | .negate, value => return .number ((← Convert.toNumber call value).map (- ·))
  | .plus, value => return .number (← Convert.toNumber call value)
  | .not, value => return .bool (!value.isTruthy)
  | .typeOf, value => return .ofString value.typeOf

/-! ## Variables -/

def notDefined {α : Type} (name : String) : Run α :=
  Run.raise .referenceError (nameMessage "'" (Units.ofString name) "' is not defined")

def readVariable (name : String) : Run Value := do
  match (← get).lookup? name with
  | some value => return value
  | none => notDefined name

/-- The kind of a variable may be asked for also if there is none of the name. -/
def typeOfVariable (name : String) : Run Value := do
  return .ofString (((← get).lookup? name).getD .undefined).typeOf

def assign (name : String) (value : Value) : Run Unit := do
  match (← get).assign name value with
  | .ok realm => set realm
  | .error .notDefined => notDefined name
  | .error .readOnly =>
    Run.raise .typeError (nameMessage "'" (Units.ofString name) "' is read-only")
  | .error .circular => Run.raiseType "circular prototype chain"

/-! ## Programs -/

/-- What is found in a value under a key that is a value as well. -/
def indexed (call : Call) (object key : Value) : Run Value := do
  match ← Convert.toPrimitive call .text key with
  | .symbol _ description =>
    if object.isNullish then member description object else return .undefined
  | key => member (← Convert.simpleText key) object

/-- How often the body of a loop is run at most. -/
def maxIterations : Nat := 100000

def loop (condition : Run Bool) (body : Value → Run Value) : Nat → Value → Run Value
  | 0, _ => Run.raiseInternal "interrupted"
  | count + 1, last => do
    if ← condition then loop condition body count (← body last) else return last

def construct (call : Call) (function : Value) (arguments : List Value) : Run Value := do
  match function with
  | .builtin (.constructor .symbol) => Run.raiseType "not a constructor"
  | .builtin (.constructor family) => callConstructor call arguments family
  | .function .. =>
    let object ← newObject (.prototypeOf .object)
    let value ← call function object arguments
    return if value.isPrimitive then object else value
  | function =>
    if function.isPrimitive then Run.raiseType "not a function"
    else Run.raiseType "not a constructor"

mutual

def expression (call : Call) : Expression → Run Value
  | .null => return .null
  | .bool b => return .bool b
  | .number x => return .number (.ofFloat x)
  | .text units => return .text units
  | .variable name => readVariable name
  | .this => return ((← get).frame.map Frame.this).getD .globals
  | .array items => do
    let items ← expressions call items
    return .array (← Run.freshId) items
  | .object properties => do
    let (prototype, properties) ← objectProperties call (.prototypeOf .object) [] properties
    return .object (← Run.freshId) prototype properties
  | .function name body => return .function (← Run.freshId) name body
  | .unary .typeOf (.variable name) => typeOfVariable name
  | .unary operator operand => do unary call operator (← expression call operand)
  | .binary operator left right => do
    let left ← expression call left
    binary call operator left (← expression call right)
  | .logical .and left right => do
    let left ← expression call left
    if left.isTruthy then expression call right else return left
  | .logical .or left right => do
    let left ← expression call left
    if left.isTruthy then return left else expression call right
  | .conditional condition ifTrue ifFalse => do
    if (← expression call condition).isTruthy then expression call ifTrue
    else expression call ifFalse
  | .sequence first second => do
    let _ ← expression call first
    expression call second
  | .assign name value => do
    let isKnown := ((← get).lookup? name).isSome
    let value ← expression call value
    if !isKnown then notDefined name
    assign name value
    return value
  | .member object name => do member (Units.ofString name) (← expression call object)
  | .index object key => do
    let object ← expression call object
    indexed call object (← expression call key)
  | .call (.member object name) arguments => do
    let object ← expression call object
    let function ← member (Units.ofString name) object
    call function object (← expressions call arguments)
  | .call (.index object key) arguments => do
    let object ← expression call object
    let function ← indexed call object (← expression call key)
    call function object (← expressions call arguments)
  | .call function arguments => do
    let function ← expression call function
    call function .undefined (← expressions call arguments)
  | .construct function arguments => do
    let function ← expression call function
    let arguments ← expressions call arguments
    construct call function arguments

def expressions (call : Call) : List Expression → Run (List Value)
  | [] => return []
  | item :: items => do
    let item ← expression call item
    return item :: (← expressions call items)

/-- The last of several properties with one key counts. -/
def objectProperties (call : Call) (prototype : Value) (found : List (Units × Value)) :
    List (PropertyKey × Expression) → Run (Value × List (Units × Value))
  | [] => return (prototype, found)
  | (.prototype, value) :: properties => do
    let value ← expression call value
    let ignored := value.isPrimitive && !value.isNull
    objectProperties call (if ignored then prototype else value) found properties
  | (.named key, value) :: properties => do
    let value ← expression call value
    objectProperties call prototype ((key, value) :: found.filter (·.1 != key)) properties

end

mutual

/-- The value of a program is that of the last expression that stands as a statement; `last` is
the one of the statements before. -/
def statement (call : Call) (last : Value) : Statement → Run Value
  | .empty => return last
  | .declare _ none => return last
  | .declare name (some value) => do
    assign name (← expression call value)
    return last
  | .expression value => expression call value
  | .throw value => do throw (.thrown (← expression call value))
  | .return none => throw (.returned .undefined)
  | .return (some value) => do throw (.returned (← expression call value))
  | .block items => statements call last items
  | .while condition body =>
    loop (return (← expression call condition).isTruthy)
      (fun last => statement call last body) maxIterations last

def statements (call : Call) (last : Value) : List Statement → Run Value
  | [] => return last
  | item :: items => do statements call (← statement call last item) items

end

/-- The variables that a program declares are there before it starts. -/
def declareAll (names : List String) : Run Unit :=
  modify fun realm => names.foldl Realm.declare realm

/-- Runs the body of a function with variables of its own, one of which is the function. -/
def runBody (call : Call) (this function : Value) (name : Option String) (body : Program) :
    Run Value := do
  let saved := (← get).frame
  let own := name.elim [] fun name => [⟨name, function, false⟩]
  let names := body.declared.filter (some · != name)
  let frame := ⟨this, own ++ names.map fun name => ⟨name, .undefined, true⟩⟩
  modify fun realm => { realm with frame := some frame }
  let result ← ExceptT.lift (statements call .undefined body).run
  modify fun realm => { realm with frame := saved }
  match result with
  | .ok _ => return .undefined
  | .error (.returned value) => return value
  | .error (.thrown value) => throw (.thrown value)

/-- A call of a function where `depth` more may be running inside of it. -/
def applyAt : Nat → Value → Value → List Value → Run Value
  | 0, _, _, _ => do
    Run.watchClock
    Run.overflow
  | depth + 1, function, this, arguments => do
    Run.watchClock
    match function with
    | .builtin b => callBuiltin ⟨depth, applyAt depth⟩ this arguments b
    | .function _ name body => runBody ⟨depth, applyAt depth⟩ this function name body
    | _ => Run.raiseType "not a function"

def callAt (depth : Nat) : Call :=
  ⟨depth, applyAt depth⟩

/-- A call that is not part of a program. -/
def outsideCall (function : Value) (arguments : List Value) : Run Value := do
  callAt (← get).limits.maxCalls function .undefined arguments

/-- Nothing of a text is run that is no program as a whole. A program is run like a function. -/
def program (text : String) : Run Value := do
  let limits := (← get).limits
  match Program.read limits.stackSize text with
  | .error fault => Run.raise .syntaxError (Units.ofString fault.message)
  | .ok program =>
    Run.watchClock
    declareAll program.declared
    statements (callAt (limits.maxCalls - 1)) .undefined program

end Evaluate

end MailTemplate.Script
