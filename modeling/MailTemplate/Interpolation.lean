import MailTemplate.Log
import MailTemplate.Markup.Escape
import MailTemplate.Text.Blank

/-! Expressions in a template. Code between two opening and two closing braces is evaluated, and
its escaped result takes its place. The results are not looked at again, and an expression that
fails leaves a mark in its place and the rest of the template as it is. -/

namespace MailTemplate.Interpolation

/-- Why an expression has no result. -/
inductive Failure where
  /-- It threw a value, shown as `text`. -/
  | thrown (text : String)
  /-- It could not be run, or its result could not be taken over. -/
  | engine (text : String)
  /-- A variable could not be defined for it. -/
  | invalidGlobal (name : String) (text : String)
  deriving DecidableEq, Inhabited

def Failure.message : Failure → String
  | thrown text => text
  | engine text => "QuickJS error: " ++ text
  | invalidGlobal name text => "Invalid global '" ++ name ++ "': " ++ text

/-- The result of an expression; an expression may have none without having failed. -/
abbrev Outcome := Except Failure (Option String)

inductive Piece where
  | literal (text : String)
  | code (code : String)
  deriving DecidableEq, Inhabited

inductive State where
  | outside
  /-- After a brace that may open an expression. -/
  | opening
  | inside (code : String)
  /-- After a brace that may close the expression. -/
  | closing (code : String)
  deriving DecidableEq, Inhabited

namespace State

/-- The state after one more character, and the piece that the character completes. -/
def step : State → Char → State × Option Piece
  | outside, c =>
    if c == '{' then (opening, none) else (outside, some (.literal (String.singleton c)))
  | opening, c =>
    if c == '{' then (inside "", none)
    else (outside, some (.literal ("\x7b" ++ String.singleton c)))
  | inside code, c => if c == '}' then (closing code, none) else (inside (code.push c), none)
  | closing code, c =>
    if c == '}' then (outside, some (.code code)) else (inside ((code.push '}').push c), none)

/-- At the end of a template an open expression is text. -/
def finish : State → Option Piece
  | outside => none
  | opening => some (.literal "\x7b")
  | inside code => some (.literal ("\x7b\x7b" ++ code))
  | closing code => some (.literal ("\x7b\x7b" ++ code ++ "\x7d"))

def pieces (state : State) : List Char → List Piece
  | [] => state.finish.toList
  | c :: cs =>
    let (next, piece) := state.step c
    piece.toList ++ pieces next cs

end State

def pieces (template : String) : List Piece :=
  State.outside.pieces template.toList

def errorClass : String := "jserror"

/-- The style block with the declarations for failed expressions. It is there in every document,
so that its rule comes before all others. -/
def preamble (errorStyle : String) : String :=
  "<style>." ++ errorClass ++ "\x7b" ++ errorStyle ++ "\x7d</style>"

def errorMark (message : String) : String :=
  "<span class=\"" ++ errorClass ++ "\">" ++ Markup.escape message ++ "</span>"

theorem errorMark_eq (message : String) :
    errorMark message = "<span class=\"jserror\">" ++ Markup.escape message ++ "</span>" := by
  have hclass : "<span class=\"" ++ errorClass ++ "\">" = "<span class=\"jserror\">" := by decide
  exact congrArg (· ++ Markup.escape message ++ "</span>") hclass

def failureRecord (code : String) (failure : Failure) : Log.Record where
  level := .warn
  source := .interpolation
  message := "template expression `" ++ Text.trim code ++ "` failed: " ++ failure.message

section

variable {m : Type → Type} [Monad m] [MonadLog m]

def substitute (code : String) : Outcome → m String
  | .ok (some text) => return Markup.escape text
  | .ok none => return ""
  | .error failure => do
    record (failureRecord code failure)
    return errorMark failure.message

def renderPiece (evaluate : String → m Outcome) : Piece → m String
  | .literal text => return text
  | .code code => do substitute code (← evaluate code)

/-- The template with its expressions replaced, which are evaluated one after the other. -/
def interpolate (evaluate : String → m Outcome) (errorStyle : String) (template : String) :
    m String := do
  let rendered ← (pieces template).mapM (renderPiece evaluate)
  return preamble errorStyle ++ String.join rendered

end

end MailTemplate.Interpolation
