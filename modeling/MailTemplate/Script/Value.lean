import MailTemplate.Json.Value
import MailTemplate.Script.Intrinsic
import MailTemplate.Script.Limits
import MailTemplate.Script.Number

/-! Values of the script language, and the variables that programs share. Arrays and objects
never change; each has a number of its own by which it is told from others that look like it. -/

namespace MailTemplate.Script

open Text (Units)

inductive Value where
  | undefined
  | null
  | bool (b : Bool)
  | number (n : Number)
  | text (units : Units)
  | symbol (id : Nat) (description : Units)
  | array (id : Nat) (items : List Value)
  /-- An object, and the one that it has properties from besides its own, if that is not `null`. -/
  | object (id : Nat) (prototype : Value) (properties : List (Units × Value))
  | error (id : Nat) (kind : ErrorKind) (message : Units)
  | function (id : Nat) (name : Option String) (body : List Statement)
  | builtin (function : Builtin)
  | intrinsic (object : Intrinsic)
  /-- The object whose properties are the variables for all programs. -/
  | globals

instance : Inhabited Value := ⟨.undefined⟩

namespace Value

def ofString (text : String) : Value :=
  .text (Units.ofString text)

/-- What counts as true in a condition. -/
def isTruthy : Value → Bool
  | undefined | null => false
  | bool b => b
  | number n => !(n.value == 0 || n.value.isNaN)
  | text units => !units.isEmpty
  | _ => true

def isNullish : Value → Bool
  | undefined | null => true
  | _ => false

def isNull : Value → Bool
  | null => true
  | _ => false

def isFunction : Value → Bool
  | function .. | builtin _ | intrinsic (.prototype .function) => true
  | _ => false

def isPrimitive : Value → Bool
  | undefined | null | bool _ | number _ | text _ | symbol .. => true
  | _ => false

/-- The kind of a value as a program is told it. -/
def typeOf (value : Value) : String :=
  match value with
  | undefined => "undefined"
  | bool _ => "boolean"
  | number _ => "number"
  | text _ => "string"
  | symbol .. => "symbol"
  | _ => if value.isFunction then "function" else "object"

def kind (value : Value) : String :=
  match value with
  | undefined => "undefined"
  | null => "null"
  | bool _ => "bool"
  | number n => if n.inWord then "int" else "float"
  | text _ => "string"
  | symbol .. => "symbol"
  | array .. => "array"
  | error .. => "exception"
  | function .. | builtin (.constructor _) => "constructor"
  | _ => if value.isFunction then "function" else "object"

/-- Whether two values are the same; objects are the same only as themselves. -/
def same : Value → Value → Bool
  | undefined, undefined | null, null | globals, globals => true
  | bool a, bool b => a == b
  | number m, number n => m.value == n.value
  | text a, text b => a == b
  | symbol a _, symbol b _ => a == b
  | array a _, array b _ => a == b
  | object a _ _, object b _ _ => a == b
  | error a _ _, error b _ _ => a == b
  | function a _ _, function b _ _ => a == b
  | builtin a, builtin b => a == b
  | intrinsic a, intrinsic b => a == b
  | _, _ => false

/-! ## Members -/

def prototypeOf (family : Family) : Value :=
  intrinsic (.prototype family)

def families : Value → List Family
  | undefined | null => []
  | bool _ => Family.bool.line
  | number _ => Family.number.line
  | text _ => Family.text.line
  | symbol .. => Family.symbol.line
  | array .. => Family.array.line
  | error _ kind _ => (Family.error kind).line
  | function .. | builtin _ => Family.function.line
  | intrinsic (.prototype family) => family.line
  | object .. | intrinsic (.named _) | globals => Family.object.line

def prototype : Value → Value
  | object _ prototype _ => prototype
  | intrinsic (.prototype family) => (family.line.tail.head?).elim null prototypeOf
  | value => (value.families.head?).elim null prototypeOf

/-- The position that a key stands for, written without leading zeros. -/
def position? (key : String) : Option Nat :=
  match key.toNat? with
  | some n => if Decimal.Layout.digitsOf n == key then some n else none
  | none => none

/-- Where an error was made, which is told alike for all programs. -/
def origin : String := "    at <eval> (eval_script)\n"

/-- A member that belongs to a value itself; those of an object are its properties. -/
def ownMember? (key : String) : Value → Option Value
  | text units =>
    if key == "length" then some (number (.ofNat units.length))
    else ((position? key).bind (units[·]?)).map fun unit => text [unit]
  | array _ items =>
    if key == "length" then some (number (.ofNat items.length))
    else (position? key).bind (items[·]?)
  | error _ _ message =>
    match key with
    | "message" => some (text message)
    | "stack" => some (ofString origin)
    | _ => none
  | function _ name _ =>
    match key with
    | "name" => some (ofString (name.getD ""))
    | "length" => some (number (.ofNat 0))
    | _ => none
  | builtin callee =>
    match callee, key with
    | callee, "name" => some (ofString callee.name)
    | callee, "length" => some (number (.ofNat callee.arity))
    | .constructor family, "prototype" => some (prototypeOf family)
    | .constructor .object, "create" => some (builtin .createObject)
    | .constructor family, key => memberOf? family.constructorName key
    | .other name, key => memberOf? name key
    | _, _ => none
  | intrinsic (.named name) => memberOf? name key
  | _ => none
where
  memberOf? (owner key : String) : Option Value :=
    ((Builtin.ownedBy? owner key).map builtin).or <|
      ((constantsOf owner).lookup key).map fun x => number (.ofFloat x)

def familyMember? (key : String) (family : Family) : Option Value :=
  let name := family.methodName key
  if family.methods.names.contains name then some (builtin (.method family name))
  else if key == "constructor" then some (builtin (.constructor family))
  else match family, key with
    | .error kind, "name" => some (ofString kind.name)
    | .error _, "message" | .function, "name" => some (text [])
    | .function, "length" | .array, "length" | .text, "length" => some (number (.ofNat 0))
    | _, _ => none

/-- What is found under a key in a value or in what it has members from, for one with the prototype
`prototype`. -/
def findFor (prototype : Value) (key : Units) : Value → Option Value
  | null => none
  | object _ next properties => (properties.lookup key).or (findFor prototype key next)
  | value =>
    let name := Units.toText key
    (value.ownMember? name).or <| (value.families.findSome? (familyMember? name)).or <|
      if name == prototypeName then some prototype else none

def find? (value : Value) (key : Units) : Option Value :=
  findFor value.prototype key value

/-- Whether a new value under `prototypeName` takes the place of the prototype, for an object with
this prototype. -/
def takesPrototype : Value → Bool
  | null => false
  | object _ next properties =>
    (properties.lookup (Units.ofString prototypeName)).isNone && next.takesPrototype
  | _ => true

/-- Whether the member under a key keeps its value also for those that have it from this one. -/
def isFixed (key : String) : Value → Bool
  | object _ next properties => (properties.lookup (Units.ofString key)).isNone && next.isFixed key
  | function .. | intrinsic (.prototype .function) => key == "name" || key == "length"
  | intrinsic (.prototype .text) => key == "length"
  | intrinsic (.named name) => isConstant name
  | builtin callee =>
    key == "name" || key == "length" ||
      match callee with
      | .constructor family => key == "prototype" || isConstant family.constructorName
      | _ => false
  | _ => false
where
  isConstant (owner : String) : Bool := ((constantsOf owner).lookup key).isSome

def reachesGlobals : Value → Bool
  | globals => true
  | object _ next _ => next.reachesGlobals
  | _ => false

end Value

structure Variable where
  name : String
  value : Value
  writable : Bool := true

structure Frame where
  this : Value
  locals : List Variable

/-- What lives from one program to the next. -/
structure Realm where
  limits : Limits
  globals : List Variable
  /-- The object with more variables for all programs. -/
  inherited : Value
  frame : Option Frame
  /-- The number for the next object. -/
  nextId : Nat
  /-- Whether the time of a program has begun to run. -/
  isTimed : Bool
  /-- Whether no function has been called so far. -/
  isUntouched : Bool

namespace Realm

def find? (scope : List Variable) (name : String) : Option Variable :=
  scope.find? (·.name == name)

/-- The variables with a new value for a name. -/
def define (scope : List Variable) (name : String) (value : Value) : List Variable :=
  if (find? scope name).isSome then
    scope.map fun v => if v.name == name then { v with value := value } else v
  else scope ++ [⟨name, value, true⟩]

def global? (realm : Realm) (name : String) : Option Value :=
  ((find? realm.globals name).map Variable.value).or
    (Value.findFor realm.inherited (Units.ofString name) realm.inherited)

def local? (realm : Realm) (name : String) : Option Variable :=
  realm.frame.bind fun frame => find? frame.locals name

def lookup? (realm : Realm) (name : String) : Option Value :=
  ((realm.local? name).map Variable.value).or (realm.global? name)

inductive Refusal where
  | notDefined
  | readOnly
  | circular
  deriving DecidableEq, Inhabited

/-- Whether a value under a name takes the place of the object with more variables. -/
def setsInherited (realm : Realm) (name : String) : Bool :=
  name == prototypeName && (find? realm.globals name).isNone && realm.inherited.takesPrototype

/-- Gives a variable for all programs a value, whether there is one of the name or not. -/
def setGlobal (realm : Realm) (name : String) (value : Value) : Except Refusal Realm :=
  match find? realm.globals name with
  | some { writable := false, .. } => .error .readOnly
  | some _ => .ok { realm with globals := define realm.globals name value }
  | none =>
    if realm.setsInherited name then
      if value.reachesGlobals then .error .circular
      else if value.isPrimitive && !value.isNull then .ok realm
      else .ok { realm with inherited := value }
    else if realm.inherited.isFixed name then .error .readOnly
    else .ok { realm with globals := define realm.globals name value }

/-- Gives the variable for all programs that is seen under a name a value. What is only inherited is
seen, but is no variable. -/
def assignGlobal (realm : Realm) (name : String) (value : Value) : Except Refusal Realm :=
  if (find? realm.globals name).isSome || realm.setsInherited name ||
      realm.inherited.isFixed name then realm.setGlobal name value
  else .error .notDefined

def assign (realm : Realm) (name : String) (value : Value) : Except Refusal Realm :=
  match realm.frame, realm.local? name with
  | some _, some { writable := false, .. } => .error .readOnly
  | some frame, some _ =>
    .ok { realm with frame := some { frame with locals := define frame.locals name value } }
  | _, _ => realm.assignGlobal name value

/-- A variable that a program declares is there before it starts. -/
def declare (realm : Realm) (name : String) : Realm :=
  if (find? realm.globals name).isSome then realm
  else { realm with globals := define realm.globals name .undefined }

def consoleMethods : List (String × Log.Level) :=
  [("log", .info), ("info", .info), ("warn", .warn), ("error", .error), ("debug", .debug)]

def console : Value :=
  .object 0 (.prototypeOf .object) (consoleMethods.map fun (method, level) =>
    (Units.ofString method, .builtin (.log method level)))

def initial (limits : Limits) : Realm where
  limits := limits
  globals :=
    [⟨"undefined", .undefined, false⟩, ⟨"NaN", .number (.ofFloat Number.nan), false⟩,
      ⟨"Infinity", .number (.ofFloat Number.infinity), false⟩, ⟨"globalThis", .globals, true⟩,
      ⟨"console", console, true⟩] ++
    Builtin.families.map (fun family =>
      ⟨family.constructorName, .builtin (.constructor family), true⟩) ++
    Builtin.others.names.map (fun name => ⟨name, .builtin (.other name), true⟩) ++
    Intrinsic.names.map (fun name => ⟨name, .intrinsic (.named name), true⟩)
  inherited := .prototypeOf .object
  frame := none
  nextId := 1
  isTimed := false
  isUntouched := true

end Realm

inductive Abrupt where
  | thrown (value : Value)
  | returned (value : Value)

/-- Variables are changed and records left also by a program that throws. -/
abbrev Run := ExceptT Abrupt (StateT Realm Logged)

namespace Run

def freshId : Run Nat :=
  modifyGet fun realm => (realm.nextId, { realm with nextId := realm.nextId + 1 })

/-- The number of units that a message of an error of the language has at most. -/
def maxMessage : Nat := 255

def raise {α : Type} (kind : ErrorKind) (message : Units) : Run α := do
  throw (.thrown (.error (← freshId) kind (message.take maxMessage)))

def raiseType {α : Type} (message : String) : Run α :=
  raise .typeError (Units.ofString message)

def raiseInternal {α : Type} (message : String) : Run α :=
  raise .internalError (Units.ofString message)

/-- The clock is looked at when the first function is called; the next look at it is so many calls
later that only a loop gets there. -/
def watchClock : Run Unit := do
  let realm ← get
  if realm.isUntouched then
    set { realm with isUntouched := false }
    if realm.isTimed && realm.limits.isTimeless then raiseInternal "interrupted"

def overflow {α : Type} : Run α :=
  raiseInternal "stack overflow"

end Run

/-- A name in a message. One that is not in ASCII is cut after the unit that fills `room` bytes,
and every name is cut at a NUL. -/
def shownName (name : Units) : Units :=
  let shown := if name.all (· < 0x80) then name else cut 0 name
  shown.takeWhile (· != 0)
where
  room : Nat := 58
  width (unit : UInt16) : Nat := if unit < 0x80 then 1 else if unit < 0x800 then 2 else 3
  cut (bytes : Nat) : Units → Units
    | [] => []
    | unit :: units => if bytes < room then unit :: cut (bytes + width unit) units else []

def nameMessage (before : String) (name : Units) (after : String) : Units :=
  Units.ofString before ++ shownName name ++ Units.ofString after

/-- What is found under a key of a value that is not nothing. -/
def member (key : Units) (value : Value) : Run Value := do
  match value with
  | .undefined =>
    Run.raise .typeError (nameMessage "cannot read property '" key "' of undefined")
  | .null => Run.raise .typeError (nameMessage "cannot read property '" key "' of null")
  | .globals => return ((← get).global? (Units.toText key)).getD .undefined
  | value => return (value.find? key).getD .undefined

/-- The value of a JSON text; every number is rounded to a floating-point one. -/
def ofJson : Json.Value → Run Value
  | .null => return .null
  | .bool b => return .bool b
  | .number n => return .number (.ofFloat n.toFloat)
  | .string text => return .ofString text
  | .array items => do
    let items ← ofItems items
    return .array (← Run.freshId) items
  | .object members => do
    let members ← ofMembers members
    return .object (← Run.freshId) (.prototypeOf .object) members
where
  ofItems : List Json.Value → Run (List Value)
    | [] => return []
    | item :: items => do
      let item ← ofJson item
      return item :: (← ofItems items)
  ofMembers : List (String × Json.Value) → Run (List (Units × Value))
    | [] => return []
    | (key, value) :: members => do
      let value ← ofJson value
      return (Units.ofString key, value) :: (← ofMembers members)

end MailTemplate.Script
