import MailTemplate.Json.Numeral
import MailTemplate.Json.Quoted

/-! What a text says as JSON. Reading never fails: where a text stops being JSON, the tree holds
the fault and ends. So the tree can be taken apart in the order of the text, and what is asked of
a value is checked before what comes after it. -/

namespace MailTemplate.Json

/-- How the items of a list or the members of an object end. -/
inductive Stop where
  | closed
  | endOfText
  /-- The closing bracket follows a comma. -/
  | trailingComma
  /-- The text ends after a comma. -/
  | endAfterComma
  /-- Neither a comma nor the closing bracket follows. -/
  | unseparated
  deriving DecidableEq, Inhabited

mutual

inductive Tree where
  | null
  | bool (b : Bool)
  | number (n : Except Fault Number)
  | string (quoted : Quoted)
  | array (items : ItemTrees)
  | object (members : MemberTrees)
  | broken (fault : Fault)

inductive ItemTrees where
  | stop (stop : Stop)
  | item (value : Tree) (rest : ItemTrees)

inductive MemberTrees where
  | stop (stop : Stop)
  /-- Something that is no text stands in the place of a key. -/
  | noKey
  /-- A key after which there is no colon. -/
  | keyOnly (key : Quoted) (fault : Fault)
  | member (key : Quoted) (value : Tree) (rest : MemberTrees)

end

instance : Inhabited Tree := ⟨.null⟩

namespace Tree

def isBlank (c : Char) : Bool :=
  c == ' ' || c == '\n' || c == '\t' || c == '\r'

def skipBlanks (cs : List Char) : List Char :=
  cs.dropWhile isBlank

/-- The rest of a word whose first letter has been read. -/
def readWord (tree : Tree) : List Char → List Char → Tree × List Char
  | [], rest => (tree, rest)
  | _ :: _, [] => (.broken .endInWord, [])
  | letter :: letters, c :: cs =>
    if c == letter then readWord tree letters cs else (.broken .wordExpected, [])

def readNumber (cs : List Char) : Tree × List Char :=
  match Numeral.take cs with
  | .ok (numeral, rest) => (.number numeral.number, rest)
  | .error fault => (.number (.error fault), [])

mutual

/-- The value at the head of a text, and the text after it. Every step takes a character of the
text or is one of at most three steps in a row that do not. -/
def read : Nat → List Char → Tree × List Char
  | 0, _ => (.broken .endInValue, [])
  | fuel + 1, cs =>
    match skipBlanks cs with
    | [] => (.broken .endInValue, [])
    | 'n' :: cs => readWord .null ['u', 'l', 'l'] cs
    | 't' :: cs => readWord (.bool true) ['r', 'u', 'e'] cs
    | 'f' :: cs => readWord (.bool false) ['a', 'l', 's', 'e'] cs
    | '"' :: cs =>
      let (quoted, rest) := Quoted.take cs
      (.string quoted, rest)
    | '[' :: cs =>
      let (items, rest) := readItems fuel cs
      (.array items, rest)
    | '{' :: cs =>
      let (members, rest) := readMembers fuel cs
      (.object members, rest)
    | c :: cs =>
      if c == '-' || c.isDigit then readNumber (c :: cs) else (.broken .valueExpected, [])

/-- The items after an opening bracket. -/
def readItems : Nat → List Char → ItemTrees × List Char
  | 0, _ => (.stop .endOfText, [])
  | fuel + 1, cs =>
    match skipBlanks cs with
    | [] => (.stop .endOfText, [])
    | ']' :: cs => (.stop .closed, cs)
    | cs => readItem fuel cs

def readItem : Nat → List Char → ItemTrees × List Char
  | 0, _ => (.stop .endOfText, [])
  | fuel + 1, cs =>
    let (value, rest) := read fuel cs
    let (items, rest) := readMoreItems fuel rest
    (.item value items, rest)

/-- The items after another one. -/
def readMoreItems : Nat → List Char → ItemTrees × List Char
  | 0, _ => (.stop .endOfText, [])
  | fuel + 1, cs =>
    match skipBlanks cs with
    | [] => (.stop .endOfText, [])
    | ']' :: cs => (.stop .closed, cs)
    | ',' :: cs =>
      match skipBlanks cs with
      | ']' :: _ => (.stop .trailingComma, [])
      | cs => readItem fuel cs
    | _ :: _ => (.stop .unseparated, [])

/-- The members after an opening brace. -/
def readMembers : Nat → List Char → MemberTrees × List Char
  | 0, _ => (.stop .endOfText, [])
  | fuel + 1, cs =>
    match skipBlanks cs with
    | [] => (.stop .endOfText, [])
    | '}' :: cs => (.stop .closed, cs)
    | cs => readMember fuel cs

def readMember : Nat → List Char → MemberTrees × List Char
  | 0, _ => (.stop .endOfText, [])
  | fuel + 1, cs =>
    match skipBlanks cs with
    | '"' :: cs =>
      let (key, rest) := Quoted.take cs
      match skipBlanks rest with
      | [] => (.keyOnly key .endInObject, [])
      | ':' :: rest =>
        let (value, rest) := read fuel rest
        let (members, rest) := readMoreMembers fuel rest
        (.member key value members, rest)
      | _ :: _ => (.keyOnly key .colonExpected, [])
    | _ => (.noKey, [])

/-- The members after another one. -/
def readMoreMembers : Nat → List Char → MemberTrees × List Char
  | 0, _ => (.stop .endOfText, [])
  | fuel + 1, cs =>
    match skipBlanks cs with
    | [] => (.stop .endOfText, [])
    | '}' :: cs => (.stop .closed, cs)
    | ',' :: cs =>
      match skipBlanks cs with
      | [] => (.stop .endAfterComma, [])
      | '}' :: _ => (.stop .trailingComma, [])
      | cs => readMember fuel cs
    | _ :: _ => (.stop .unseparated, [])

end

/-- Enough steps for a text of this length. -/
def fuelFor (cs : List Char) : Nat :=
  4 * cs.length + 4

/-- The value at the head of a text, and the text after it. -/
def ofChars (cs : List Char) : Tree × List Char :=
  read (fuelFor cs) cs

end Tree

end MailTemplate.Json
