import MailTemplate.Json.Quoted

/-! Values as JSON text, on one line or with every item on a line of its own. -/

namespace MailTemplate.Json

namespace Value

mutual

def write : Value → List Char
  | null => ['n', 'u', 'l', 'l']
  | bool true => ['t', 'r', 'u', 'e']
  | bool false => ['f', 'a', 'l', 's', 'e']
  | number n => n.text.toList
  | string text => Quoted.encode text
  | array items => '[' :: writeItems items ++ [']']
  | object members => '{' :: writeMembers members ++ ['}']

def writeItems : List Value → List Char
  | [] => []
  | value :: items => write value ++ writeMoreItems items

def writeMoreItems : List Value → List Char
  | [] => []
  | value :: items => ',' :: write value ++ writeMoreItems items

def writeMembers : List (String × Value) → List Char
  | [] => []
  | (key, value) :: members => Quoted.encode key ++ ':' :: write value ++ writeMoreMembers members

def writeMoreMembers : List (String × Value) → List Char
  | [] => []
  | (key, value) :: members =>
    ',' :: Quoted.encode key ++ ':' :: write value ++ writeMoreMembers members

end

def compact (value : Value) : String :=
  String.ofList value.write

/-- A new line inside of so many containers. -/
def newLine (depth : Nat) : List Char :=
  '\n' :: List.replicate (2 * depth) ' '

mutual

/-- A container that is not empty has every item on a line of its own. -/
def writeLines (depth : Nat) : Value → List Char
  | array [] => ['[', ']']
  | array (value :: items) =>
    '[' :: newLine (depth + 1) ++ writeLines (depth + 1) value ++ moreItemLines depth items
  | object [] => ['{', '}']
  | object ((key, value) :: members) =>
    '{' :: newLine (depth + 1) ++ Quoted.encode key ++ ':' :: ' ' ::
      writeLines (depth + 1) value ++ moreMemberLines depth members
  | value => write value

def moreItemLines (depth : Nat) : List Value → List Char
  | [] => newLine depth ++ [']']
  | value :: items =>
    ',' :: newLine (depth + 1) ++ writeLines (depth + 1) value ++ moreItemLines depth items

def moreMemberLines (depth : Nat) : List (String × Value) → List Char
  | [] => newLine depth ++ ['}']
  | (key, value) :: members =>
    ',' :: newLine (depth + 1) ++ Quoted.encode key ++ ':' :: ' ' ::
      writeLines (depth + 1) value ++ moreMemberLines depth members

end

def pretty (value : Value) : String :=
  String.ofList (value.writeLines 0)

end Value

end MailTemplate.Json
