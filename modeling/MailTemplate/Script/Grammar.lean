import MailTemplate.Script.Number

/-! Reading a program. The whole text is read before any of it is run. A statement ends at a
semicolon, or without one before a closing brace, at a line break and at the end. What is nested
takes room on the stack, and a program for which there is not enough of it cannot be read. -/

namespace MailTemplate.Script

open Text (Units)

namespace Grammar

/-- Readers are given the bytes that are left on the stack. -/
abbrev Reader := ReaderT Nat (StateT (List Lexeme) (Except SyntaxFault))

def nested {α : Type} (size : Nat) (reader : Reader α) : Reader α := do
  if (← read) < size then throw .tooDeep
  withReader (· - size) reader

/-- The bytes for a program that is empty. -/
def programSize : Nat := 2500

/-- The bytes for a statement in another one. -/
def statementSize : Nat := 300

/-- The bytes for an expression that may have any operator. -/
def expressionSize : Nat := 1700

/-- The bytes for an expression to the right of one that binds as tightly. -/
def rightSize : Nat := 300

/-- The bytes for an operator before its operand. -/
def unarySize : Nat := 130

/-- The bytes for the body of a function. -/
def functionSize : Nat := 800

/-- The names that are no variables. -/
def reserved : List String :=
  ["break", "case", "catch", "class", "const", "continue", "debugger", "default", "delete", "do",
    "else", "enum", "export", "extends", "false", "finally", "for", "function", "if",
    "implements", "import", "in", "instanceof", "interface", "let", "new", "null", "package",
    "private", "protected", "public", "return", "static", "super", "switch", "this", "throw",
    "true", "try", "typeof", "var", "void", "while", "with", "yield"]

def head : Reader Lexeme.Content :=
  return (← get).head?.elim .stop Lexeme.content

def advance : Reader Unit :=
  modify List.tail

/-- What is no lexeme at all is reported as that. -/
def fail {α : Type} (fault : SyntaxFault) : Reader α := do
  match ← head with
  | .wrong fault => throw fault
  | _ => throw fault

def unexpected {α : Type} : Reader α := do
  fail (.unexpectedToken (← head).source)

def atMark (mark : String) : Reader Bool :=
  return match ← head with
    | .mark other => mark == other
    | _ => false

/-- A name with a colon after it, which labels a statement. -/
def atLabel : Reader Bool :=
  return match ← get with
    | ⟨.name name, _⟩ :: ⟨.mark ":", _⟩ :: _ => !reserved.contains name
    | _ => false

def atEnd : Reader Bool :=
  return match ← head with
    | .stop => true
    | _ => false

def afterBreak : Reader Bool :=
  return (← get).head?.any Lexeme.afterBreak

def accept (mark : String) : Reader Bool := do
  if ← atMark mark then
    advance
    return true
  else return false

def expect (mark : String) : Reader Unit := do
  unless ← accept mark do fail (.expecting mark)

def endOfStatement : Reader Unit := do
  if ← accept ";" then return ()
  unless (← atEnd) || (← afterBreak) || (← atMark "\x7d") do fail (.expecting ";")

/-- The operators from those that bind loosest to those that bind tightest. -/
def operatorAt (level : Nat) (mark : String) : Option (Expression → Expression → Expression) :=
  match level, mark with
  | 0, "||" => some (.logical .or)
  | 1, "&&" => some (.logical .and)
  | 2, "===" => some (.binary .same)
  | 2, "!==" => some (.binary .notSame)
  | 3, "<" => some (.binary .less)
  | 3, "<=" => some (.binary .lessEqual)
  | 3, ">" => some (.binary .greater)
  | 3, ">=" => some (.binary .greaterEqual)
  | 4, "+" => some (.binary .add)
  | 4, "-" => some (.binary .subtract)
  | 5, "*" => some (.binary .multiply)
  | 5, "/" => some (.binary .divide)
  | 5, "%" => some (.binary .remainder)
  | _, _ => none

def levels : Nat := 6

def unaryOperator? : Lexeme.Content → Option UnaryOperator
  | .mark "-" => some .negate
  | .mark "+" => some .plus
  | .mark "!" => some .not
  | .name "typeof" => some .typeOf
  | _ => none

def fieldName : Reader String := do
  match ← head with
  | .name name =>
    advance
    return name
  | _ => fail .expectingField

/-- The names that a program may read but not change. -/
def isGuarded (name : String) : Bool :=
  name == "eval" || name == "arguments"

def variableName : Reader String := do
  match ← head with
  | .name name =>
    if reserved.contains name then fail .expectingVariable
    advance
    if isGuarded name then fail .reservedVariable
    return name
  | _ => fail .expectingVariable

/-- A key in an object: its text, and whether it may also be a variable. -/
def propertyKey : Reader (Units × Bool) := do
  match ← head with
  | .name name =>
    advance
    return (Units.ofString name, !reserved.contains name)
  | .text units =>
    advance
    return (units, false)
  | .number x =>
    advance
    return (Units.ofString (Number.ofFloat x).text, false)
  | _ => fail .expectingProperty

mutual

def sequence (fuel : Nat) : Reader Expression :=
  match fuel with
  | 0 => throw .tooDeep
  | fuel + 1 => nested expressionSize do moreSequence fuel (← assignment fuel)

def moreSequence (fuel : Nat) (first : Expression) : Reader Expression :=
  match fuel with
  | 0 => throw .tooDeep
  | fuel + 1 => do
    if ← accept "," then moreSequence fuel (.sequence first (← assignment fuel))
    else return first

def assignment (fuel : Nat) : Reader Expression :=
  match fuel with
  | 0 => throw .tooDeep
  | fuel + 1 => do
    let left ← conditional fuel
    if ← accept "=" then
      match left with
      | .variable name =>
        if isGuarded name then fail .reservedAssignment
        return .assign name (← nested rightSize (assignment fuel))
      | _ => fail .invalidAssignment
    else return left

def conditional (fuel : Nat) : Reader Expression :=
  match fuel with
  | 0 => throw .tooDeep
  | fuel + 1 => do
    let condition ← binary fuel 0
    if ← accept "?" then
      let ifTrue ← nested rightSize (assignment fuel)
      expect ":"
      return .conditional condition ifTrue (← nested rightSize (assignment fuel))
    else return condition

def binary (fuel level : Nat) : Reader Expression :=
  match fuel with
  | 0 => throw .tooDeep
  | fuel + 1 => do
    if level == levels then unary fuel
    else moreBinary fuel level (← binary fuel (level + 1))

/-- Operators of one level are applied from left to right. -/
def moreBinary (fuel level : Nat) (left : Expression) : Reader Expression :=
  match fuel with
  | 0 => throw .tooDeep
  | fuel + 1 => do
    match ← head with
    | .mark mark =>
      match operatorAt level mark with
      | some combine =>
        advance
        moreBinary fuel level (combine left (← binary fuel (level + 1)))
      | none => return left
    | _ => return left

def unary (fuel : Nat) : Reader Expression :=
  match fuel with
  | 0 => throw .tooDeep
  | fuel + 1 => do
    match unaryOperator? (← head) with
    | some operator =>
      advance
      return .unary operator (← nested unarySize (unary fuel))
    | none => postfixes fuel true (← primary fuel)

/-- Members, items and, if `calls`, calls of what stands before them. -/
def postfixes (fuel : Nat) (calls : Bool) (base : Expression) : Reader Expression :=
  match fuel with
  | 0 => throw .tooDeep
  | fuel + 1 => do
    if ← accept "." then postfixes fuel calls (.member base (← fieldName))
    else if ← accept "[" then
      let key ← sequence fuel
      expect "]"
      postfixes fuel calls (.index base key)
    else if calls && (← atMark "(") then
      advance
      postfixes fuel calls (.call base (← nested expressionSize (arguments fuel)))
    else return base

def arguments (fuel : Nat) : Reader (List Expression) :=
  match fuel with
  | 0 => throw .tooDeep
  | fuel + 1 => do
    if ← accept ")" then return []
    let argument ← assignment fuel
    if ← accept ")" then return [argument]
    expect ","
    return argument :: (← arguments fuel)

def primary (fuel : Nat) : Reader Expression :=
  match fuel with
  | 0 => throw .tooDeep
  | fuel + 1 => do
    match ← head with
    | .number x =>
      advance
      return .number x
    | .text units =>
      advance
      return .text units
    | .mark "(" =>
      advance
      let inner ← sequence fuel
      expect ")"
      return inner
    | .mark "[" =>
      advance
      return .array (← nested expressionSize (items fuel))
    | .mark "\x7b" =>
      advance
      return .object (← nested expressionSize (properties fuel false))
    | .name "null" =>
      advance
      return .null
    | .name "true" =>
      advance
      return .bool true
    | .name "false" =>
      advance
      return .bool false
    | .name "this" =>
      advance
      return .this
    | .name "new" =>
      advance
      nested rightSize (construction fuel)
    | .name "function" =>
      advance
      function fuel
    | .name name =>
      if reserved.contains name then unexpected
      advance
      return .variable name
    | _ => unexpected

/-- What is constructed after `new`; the arguments may be left out. -/
def construction (fuel : Nat) : Reader Expression :=
  match fuel with
  | 0 => throw .tooDeep
  | fuel + 1 => do
    let constructor ← postfixes fuel false (← primary fuel)
    if ← accept "(" then return .construct constructor (← nested expressionSize (arguments fuel))
    else return .construct constructor []

/-- The items after an opening bracket. An item that is left out before a comma is undefined. -/
def items (fuel : Nat) : Reader (List Expression) :=
  match fuel with
  | 0 => throw .tooDeep
  | fuel + 1 => do
    if ← accept "]" then return []
    if ← accept "," then return .variable "undefined" :: (← items fuel)
    let item ← assignment fuel
    if ← accept "," then return item :: (← items fuel)
    expect "]"
    return [item]

/-- The properties after an opening brace; `inherits` if the prototype has been given. -/
def properties (fuel : Nat) (inherits : Bool) : Reader (List (PropertyKey × Expression)) :=
  match fuel with
  | 0 => throw .tooDeep
  | fuel + 1 => do
    if ← accept "\x7d" then return []
    let property ← property fuel
    let isPrototype := property.1 == .prototype
    if inherits && isPrototype then fail .duplicatePrototype
    if ← accept "," then return property :: (← properties fuel (inherits || isPrototype))
    expect "\x7d"
    return [property]

/-- A key with a value, a method, or a variable with its own name as the key. -/
def property (fuel : Nat) : Reader (PropertyKey × Expression) :=
  match fuel with
  | 0 => throw .tooDeep
  | fuel + 1 => do
    let (key, isVariable) ← propertyKey
    let name := Units.toText key
    if ← atMark "(" then return (.named key, .function (some name) (← body fuel))
    if isVariable && !(← atMark ":") then return (.named key, .variable name)
    expect ":"
    let isPrototype := key == Units.ofString prototypeName
    return (if isPrototype then .prototype else .named key, ← assignment fuel)

def function (fuel : Nat) : Reader Expression :=
  match fuel with
  | 0 => throw .tooDeep
  | fuel + 1 => do
    if ← atMark "(" then return .function none (← body fuel)
    let name ← variableName
    return .function (some name) (← body fuel)

def body (fuel : Nat) : Reader (List Statement) :=
  match fuel with
  | 0 => throw .tooDeep
  | fuel + 1 => do
    expect "("
    expect ")"
    expect "\x7b"
    nested functionSize (block fuel true)

def block (fuel : Nat) (inFunction : Bool) : Reader (List Statement) :=
  match fuel with
  | 0 => throw .tooDeep
  | fuel + 1 => do
    if ← accept "\x7d" then return []
    let first ← statement fuel inFunction
    return first :: (← block fuel inFunction)

def declarations (fuel : Nat) : Reader (List Statement) :=
  match fuel with
  | 0 => throw .tooDeep
  | fuel + 1 => do
    let name ← variableName
    let value ← if ← accept "=" then some <$> nested expressionSize (assignment fuel) else pure none
    let first := Statement.declare name value
    if ← accept "," then return first :: (← declarations fuel)
    else return [first]

def statement (fuel : Nat) (inFunction : Bool) : Reader Statement :=
  match fuel with
  | 0 => throw .tooDeep
  | fuel + 1 => do
    match ← head with
    | .mark ";" =>
      advance
      return .empty
    | .mark "\x7b" =>
      advance
      return .block (← nested statementSize (block fuel inFunction))
    | .name "var" =>
      advance
      let declared ← declarations fuel
      endOfStatement
      match declared with
      | [single] => return single
      | several => return .block several
    | .name "throw" =>
      advance
      if ← afterBreak then fail .lineBreakAfterThrow
      let value ← sequence fuel
      endOfStatement
      return .throw value
    | .name "return" =>
      unless inFunction do throw .returnOutside
      advance
      if (← atEnd) || (← afterBreak) || (← atMark ";") || (← atMark "\x7d") then
        endOfStatement
        return .return none
      let value ← sequence fuel
      endOfStatement
      return .return (some value)
    | .name "while" =>
      advance
      expect "("
      let condition ← sequence fuel
      expect ")"
      return .while condition (← nested statementSize (statement fuel inFunction))
    | _ =>
      if ← atLabel then
        advance
        advance
        nested statementSize (statement fuel inFunction)
      else
        let value ← sequence fuel
        endOfStatement
        return .expression value

end

def program (fuel : Nat) : Reader Program :=
  match fuel with
  | 0 => throw .tooDeep
  | fuel + 1 => do
    if ← atEnd then return []
    let first ← statement (20 * fuel + 20) false
    return first :: (← program fuel)

end Grammar

/-- The program that a text holds, read with so many bytes of stack. No rule of the grammar is
entered more than twenty times before a lexeme is taken. -/
def Program.read (stack : Nat) (text : String) : Except SyntaxFault Program :=
  let lexemes := Lexeme.ofText text
  let reader := Grammar.nested Grammar.programSize (Grammar.program (lexemes.length + 1))
  (reader.run stack).run' lexemes

end MailTemplate.Script
