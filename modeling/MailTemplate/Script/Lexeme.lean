import MailTemplate.Script.Program
import MailTemplate.Text.Blank
import MailTemplate.Text.Identifier

/-! The lexemes of a program. A text that is no lexeme is one for the grammar all the same, which
no rule accepts: so what is wrong first in the text is reported. -/

namespace MailTemplate.Script

open Text (Units)

inductive SyntaxFault where
  | unexpectedToken (source : String)
  | unexpectedCharacter
  | endOfString
  | endOfComment
  | malformedEscape
  | octalEscape
  | invalidNumber
  | octalNumber
  | privateName
  | expecting (mark : String)
  | expectingField
  | expectingProperty
  | expectingVariable
  | duplicatePrototype
  | invalidAssignment
  | reservedAssignment
  | reservedVariable
  | lineBreakAfterThrow
  | returnOutside
  | tooDeep
  deriving DecidableEq, Inhabited

def SyntaxFault.message : SyntaxFault → String
  | unexpectedToken source => "unexpected token in expression: '" ++ source ++ "'"
  | unexpectedCharacter => "unexpected character"
  | endOfString => "unexpected end of string"
  | endOfComment => "unexpected end of comment"
  | malformedEscape => "malformed escape sequence in string literal"
  | octalEscape => "octal escape sequences are not allowed in strict mode"
  | invalidNumber => "invalid number literal"
  | octalNumber => "octal literals are deprecated in strict mode"
  | privateName => "invalid first character of private name"
  | expecting mark => "expecting '" ++ mark ++ "'"
  | expectingField => "expecting field name"
  | expectingProperty => "invalid property name"
  | expectingVariable => "variable name expected"
  | duplicatePrototype => "duplicate __proto__ property name"
  | invalidAssignment => "invalid assignment left-hand side"
  | reservedAssignment => "invalid lvalue in strict mode"
  | reservedVariable => "invalid variable name in strict mode"
  | lineBreakAfterThrow => "line terminator not allowed after throw"
  | returnOutside => "return not in a function"
  | tooDeep => "stack overflow"

namespace Lexeme

inductive Content where
  | number (x : Float)
  | text (units : Units)
  | name (name : String)
  | mark (mark : String)
  | wrong (fault : SyntaxFault)
  /-- The end of the text. -/
  | stop

def Content.source : Content → String
  | name written | mark written => written
  | _ => ""

end Lexeme

structure Lexeme where
  content : Lexeme.Content
  /-- Whether there is a line break before it. -/
  afterBreak : Bool

namespace Lexeme

def isLineBreak (c : Char) : Bool :=
  c == '\n' || c == '\r' || c == '\u2028' || c == '\u2029'

/-- White space in a program, which U+0085 is not and U+FEFF is. -/
def isSpace (c : Char) : Bool :=
  (Text.isBlank c && c != '\u0085') || c == '\ufeff'

/-! ## Numbers -/

/-- The digits at the head of a text, and the text after them. If they may be `grouped`, an
underline between two of them is passed over. -/
def spanDigits (isDigit : Char → Bool) (grouped : Bool) : List Char → List Char × List Char
  | [] => ([], [])
  | c :: cs =>
    if isDigit c then
      let (digits, rest) := spanMore cs
      (c :: digits, rest)
    else ([], c :: cs)
where
  /-- The digits after another one. -/
  spanMore : List Char → List Char × List Char
    | '_' :: c :: cs =>
      if grouped && isDigit c then
        let (digits, rest) := spanMore cs
        (c :: digits, rest)
      else ([], '_' :: c :: cs)
    | c :: cs =>
      if isDigit c then
        let (digits, rest) := spanMore cs
        (c :: digits, rest)
      else ([], c :: cs)
    | [] => ([], [])

def valueOf (digits : List Char) : Nat :=
  digits.foldl (fun n c => 10 * n + (c.toNat - '0'.toNat)) 0

def takeDecimal (grouped : Bool) (cs : List Char) : Option (Nat × Int × List Char) :=
  let (integral, cs) := spanDigits Char.isDigit (grouped && cs.head? != some '0') cs
  let (fraction, cs) := match cs with
    | '.' :: cs => spanDigits Char.isDigit grouped cs
    | cs => ([], cs)
  if integral.isEmpty && fraction.isEmpty then none
  else some (valueOf (integral ++ fraction), -(fraction.length : Int), cs)

def takeExponent (grouped : Bool) (cs : List Char) : Option (Int × List Char) :=
  let (negative, cs) := match cs with
    | '-' :: cs => (true, cs)
    | '+' :: cs => (false, cs)
    | cs => (false, cs)
  match spanDigits Char.isDigit grouped cs with
  | ([], _) => none
  | (digits, cs) => some (if negative then -(valueOf digits : Int) else valueOf digits, cs)

def toFloat (digits : Nat) (exponent : Int) : Float :=
  if digits == 0 || exponent < -100000 then 0
  else if 100000 < exponent then 1 / 0
  else Float.ofScientific digits (exponent < 0) exponent.natAbs

def takeDecimalNumber (grouped : Bool) (cs : List Char) : Option (Float × List Char) := do
  let (digits, exponent, cs) ← takeDecimal grouped cs
  match cs with
  | c :: rest =>
    if c == 'e' || c == 'E' then
      match takeExponent grouped rest with
      | some (more, rest) => return (toFloat digits (exponent + more), rest)
      | none => return (toFloat digits exponent, cs)
    else return (toFloat digits exponent, cs)
  | [] => return (toFloat digits exponent, cs)

def hexDigit? (c : Char) : Option Nat :=
  if c.isDigit then some (c.toNat - '0'.toNat)
  else if 'a' ≤ c && c ≤ 'f' then some (c.toNat - 'a'.toNat + 10)
  else if 'A' ≤ c && c ≤ 'F' then some (c.toNat - 'A'.toNat + 10)
  else none

def takeBase? : List Char → Option (Nat × List Char)
  | '0' :: 'x' :: cs | '0' :: 'X' :: cs => some (16, cs)
  | '0' :: 'o' :: cs | '0' :: 'O' :: cs => some (8, cs)
  | '0' :: 'b' :: cs | '0' :: 'B' :: cs => some (2, cs)
  | _ => none

/-- Digits are taken into a word as long as there is room for any of them; of the others, only
the number is kept. -/
def accumulate (base : Nat) : Nat × Nat → Nat → Nat × Nat
  | (n, dropped), digit =>
    if n < UInt64.size / base then (n * base + digit, dropped) else (n, dropped + 1)

/-- Digits in a base that is a power of two, at least one, and the text after them. No point may
follow. -/
def takeDigits (grouped : Bool) (base : Nat) (cs : List Char) : Option (Float × List Char) :=
  let (digits, rest) := spanDigits (fun c => (hexDigit? c).any (· < base)) grouped cs
  if digits.isEmpty || rest.head? == some '.' then none
  else
    let (n, dropped) := (digits.filterMap hexDigit?).foldl (accumulate base) (0, 0)
    some (Float.scaleB (UInt64.ofNat n).toFloat (dropped * base.log2 : Nat), rest)

def takeNumber (cs : List Char) : Except SyntaxFault (Float × List Char) :=
  let startsOctal := match cs with
    | '0' :: c :: _ => c.isDigit
    | _ => false
  let taken := match takeBase? cs with
    | some (base, cs) => takeDigits true base cs
    | none => takeDecimalNumber true cs
  if startsOctal then .error .octalNumber
  else match taken with
    | some (x, rest) =>
      if rest.head?.any Text.isIdentifierPart then .error .invalidNumber else .ok (x, rest)
    | none => .error .invalidNumber

/-! ## Strings -/

def hexUnit? (count : Nat) (cs : List Char) : Option UInt16 :=
  if (cs.take count).length < count then none
  else (cs.take count).foldlM (fun n c => do
    return 16 * n + UInt16.ofNat (← hexDigit? c)) 0

def takeBraced : Nat → List Char → Option (Nat × List Char)
  | _, [] => none
  | code, c :: cs => do
    let code := 16 * code + (← hexDigit? c)
    if 0x10FFFF < code then none
    else match cs with
      | '\x7d' :: cs => some (code, cs)
      | cs => takeBraced code cs

/-- The units of a code point, which may be a half of a pair. -/
def unitsOf (code : Nat) : Units :=
  if code < 0x10000 then [UInt16.ofNat code] else Units.ofChar (Char.ofNat code)

/-- The units that a character after a backslash stands for; most stand for themselves. -/
def escapedUnits : Char → Units
  | 'n' => [10]
  | 't' => [9]
  | 'r' => [13]
  | 'b' => [8]
  | 'f' => [12]
  | 'v' => [11]
  | c => if isLineBreak c then [] else Units.ofChar c

/-- What an escape stands for, and the text after it; `cs` is not empty and comes after the
backslash. -/
def takeEscape (cs : List Char) : Except SyntaxFault (Units × List Char) :=
  match cs with
  | 'u' :: '\x7b' :: cs =>
    match takeBraced 0 cs with
    | some (code, cs) => .ok (unitsOf code, cs)
    | none => .error .malformedEscape
  | 'u' :: cs => coded 4 cs
  | 'x' :: cs => coded 2 cs
  | '\r' :: '\n' :: cs => .ok ([], cs)
  | c :: cs =>
    if c == '0' && !cs.head?.any Char.isDigit then .ok ([0], cs)
    else if c == '8' || c == '9' then .error .malformedEscape
    else if c.isDigit then .error .octalEscape
    else .ok (escapedUnits c, cs)
  | [] => .error .endOfString
where
  coded (count : Nat) (cs : List Char) : Except SyntaxFault (Units × List Char) :=
    match hexUnit? count cs with
    | some unit => .ok ([unit], cs.drop count)
    | none => .error .malformedEscape

def takeString (quote : Char) : Nat → List Char → Except SyntaxFault (Units × List Char)
  | 0, _ => .error .endOfString
  | _, [] => .error .endOfString
  | fuel + 1, c :: cs => do
    if c == quote then return ([], cs)
    if c == '\n' || c == '\r' then throw .endOfString
    let (units, cs) ← if c == '\\' then takeEscape cs else .ok (Units.ofChar c, cs)
    let (more, rest) ← takeString quote fuel cs
    return (units ++ more, rest)

/-! ## Names -/

def takeNameChar (isPart : Char → Bool) : List Char → Option (Char × List Char)
  | '\\' :: 'u' :: cs =>
    let coded := match cs with
      | '\x7b' :: cs => takeBraced 0 cs
      | cs => (hexUnit? 4 cs).map fun unit => (unit.toNat, cs.drop 4)
    match coded with
    | some (code, rest) =>
      let c := Char.ofNat code
      if c.toNat == code && isPart c then some (c, rest) else none
    | none => none
  | c :: cs => if isPart c then some (c, cs) else none
  | [] => none

def takeNameRest : Nat → List Char → List Char × List Char
  | 0, cs => ([], cs)
  | fuel + 1, cs =>
    match takeNameChar Text.isIdentifierPart cs with
    | some (c, cs) =>
      let (name, rest) := takeNameRest fuel cs
      (c :: name, rest)
    | none => ([], cs)

def takeName? (cs : List Char) : Option (List Char × List Char) := do
  let (first, cs) ← takeNameChar Text.isIdentifierStart cs
  let (name, rest) := takeNameRest cs.length cs
  return (first :: name, rest)

/-! ## Marks -/

/-- The marks of the language, no mark before one that it begins with. -/
def marks : List String :=
  [">>>=", "===", "!==", "**=", "<<=", ">>=", ">>>", "&&=", "||=", "??=", "...",
    "==", "!=", "<=", ">=", "&&", "||", "??", "?.", "=>", "++", "--", "+=", "-=", "*=", "/=",
    "%=", "&=", "|=", "^=", "**", "<<", ">>"]

/-- A mark is as long as can be; but a question mark does not take the point of a number. -/
def takeMark (c : Char) (cs : List Char) : String :=
  let beforeNumber := match cs with
    | '.' :: d :: _ => d.isDigit
    | _ => false
  if c == '?' && beforeNumber then "?"
  else match marks.find? (·.toList.isPrefixOf (c :: cs)) with
    | some mark => mark
    | none => String.singleton c

/-! ## The whole text -/

/-- White space and comments at the head of a text: whether there is a line break in them, and
the text after them. The marks around a comment in markup are the start of a comment to the end of
the line, the closing one only at the start of a line or of the whole text. -/
def skipSpace : Nat → (broken atStart : Bool) → List Char → Except SyntaxFault (Bool × List Char)
  | 0, broken, _, cs => .ok (broken, cs)
  | _, broken, _, [] => .ok (broken, [])
  | fuel + 1, broken, atStart, c :: cs =>
    if isLineBreak c then skipSpace fuel true atStart cs
    else if isSpace c then skipSpace fuel broken atStart cs
    else match c, cs with
      | '/', '/' :: cs => skipSpace fuel broken atStart (cs.dropWhile (!isLineBreak ·))
      | '/', '*' :: cs => skipComment fuel broken atStart cs
      | '<', '!' :: '-' :: '-' :: cs =>
        skipSpace fuel broken atStart (cs.dropWhile (!isLineBreak ·))
      | '-', '-' :: '>' :: cs =>
        if broken || atStart then skipSpace fuel broken atStart (cs.dropWhile (!isLineBreak ·))
        else .ok (broken, c :: '-' :: '>' :: cs)
      | c, cs => .ok (broken, c :: cs)
where
  skipComment : Nat → (broken atStart : Bool) → List Char → Except SyntaxFault (Bool × List Char)
    | 0, broken, _, cs => .ok (broken, cs)
    | _, _, _, [] => .error .endOfComment
    | fuel + 1, broken, atStart, '*' :: '/' :: cs => skipSpace fuel broken atStart cs
    | fuel + 1, broken, atStart, c :: cs =>
      skipComment fuel (broken || isLineBreak c) atStart cs

def ofTaken {α : Type} (content : α → Content) :
    Except SyntaxFault (α × List Char) → Content × List Char
  | .ok (a, rest) => (content a, rest)
  | .error fault => (.wrong fault, [])

def take (c : Char) (cs : List Char) : Content × List Char :=
  if let some (name, rest) := takeName? (c :: cs) then (.name (String.ofList name), rest)
  else if c == '"' || c == '\x27' then ofTaken .text (takeString c (cs.length + 1) cs)
  else if 0x80 ≤ c.toNat then (.wrong .unexpectedCharacter, [])
  else if c.isDigit || (c == '.' && cs.head?.any Char.isDigit) then
    ofTaken .number (takeNumber (c :: cs))
  else if c == '#' then
    if cs.head?.any Text.isIdentifierStart then
      let (name, rest) := cs.span Text.isIdentifierPart
      (.mark (String.ofList (c :: name)), rest)
    else (.wrong .privateName, [])
  else
    let mark := takeMark c cs
    (.mark mark, cs.drop (mark.length - 1))

/-- The lexemes of a text, the last of which is its end or what is wrong in it. Each of the others
takes a character of the text at least. -/
def lexemesWith : Nat → (atStart : Bool) → List Char → List Lexeme
  | 0, _, _ => []
  | fuel + 1, atStart, cs =>
    match skipSpace (fuel + 1) false atStart cs with
    | .error fault => [⟨.wrong fault, false⟩]
    | .ok (broken, []) => [⟨.stop, broken⟩]
    | .ok (broken, c :: cs) =>
      let (content, rest) := take c cs
      ⟨content, broken⟩ :: lexemesWith fuel false rest

/-- A line that names an interpreter is passed over at the start of a text. -/
def ofText (text : String) : List Lexeme :=
  let cs := match text.toList with
    | '#' :: '!' :: cs => cs.dropWhile (!isLineBreak ·)
    | cs => cs
  lexemesWith (text.length + 2) true cs

end Lexeme

end MailTemplate.Script
