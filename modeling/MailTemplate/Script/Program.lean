import MailTemplate.Text.Units

/-! Programs of the script language that the expressions of a template are written in. -/

namespace MailTemplate.Script

open Text (Units)

inductive UnaryOperator where
  | negate
  | plus
  | not
  | typeOf
  deriving DecidableEq, Inhabited

inductive BinaryOperator where
  | add
  | subtract
  | multiply
  | divide
  | remainder
  | less
  | lessEqual
  | greater
  | greaterEqual
  | same
  | notSame
  deriving DecidableEq, Inhabited

inductive LogicalOperator where
  | and
  | or
  deriving DecidableEq, Inhabited

/-- The name under which a value shows the object that it has members from besides its own. -/
def prototypeName : String := "__proto__"

/-- What a value in an object stands for. -/
inductive PropertyKey where
  | named (key : Units)
  /-- The object that properties are inherited from. -/
  | prototype
  deriving DecidableEq, Inhabited

mutual

inductive Expression where
  | null
  | bool (b : Bool)
  | number (x : Float)
  | text (units : Units)
  | variable (name : String)
  | this
  | array (items : List Expression)
  | object (properties : List (PropertyKey × Expression))
  | function (name : Option String) (body : List Statement)
  | unary (operator : UnaryOperator) (operand : Expression)
  | binary (operator : BinaryOperator) (left right : Expression)
  | logical (operator : LogicalOperator) (left right : Expression)
  | conditional (condition ifTrue ifFalse : Expression)
  /-- The value of the second expression, after the first. -/
  | sequence (first second : Expression)
  | assign (name : String) (value : Expression)
  | member (object : Expression) (name : String)
  | index (object key : Expression)
  | call (function : Expression) (arguments : List Expression)
  | construct (function : Expression) (arguments : List Expression)

inductive Statement where
  | empty
  | declare (name : String) (value : Option Expression)
  | expression (value : Expression)
  | throw (value : Expression)
  | return (value : Option Expression)
  | block (statements : List Statement)
  | while (condition : Expression) (body : Statement)

end

instance : Inhabited Expression := ⟨.null⟩

instance : Inhabited Statement := ⟨.empty⟩

abbrev Program := List Statement

/-- The variables that a statement declares, also in the statements that it holds. -/
def Statement.declared : Statement → List String
  | declare name _ => [name]
  | block statements => declaredIn statements
  | .while _ body => body.declared
  | _ => []
where
  declaredIn : List Statement → List String
    | [] => []
    | statement :: statements => statement.declared ++ declaredIn statements

/-- The variables of a program exist from its start on. -/
def Program.declared (program : Program) : List String :=
  Statement.declared.declaredIn program

end MailTemplate.Script
