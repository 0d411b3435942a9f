import MailTemplate.Files
import MailTemplate.Inlining.Inject
import MailTemplate.Markup.Lexer
import MailTemplate.Script.Sandbox
import MailTemplate.Template.Options

/-! Rendering a template: its expressions are evaluated, the text is read as markup, and the
rules of its style blocks are moved into the tags. -/

namespace MailTemplate.Template

open Markup

/-- Why there is no rendered template. An expression that fails is no reason. -/
inductive Error where
  | pathRequired
  | leavesRoot (path : String)
  | unreadable (path : String) (failure : Files.ReadFailure)
  | sandbox (failure : Interpolation.Failure)
  | configuration (error : Json.Error)

def Error.message : Error → String
  | pathRequired => "Invalid argument: a template path is required"
  | leavesRoot path =>
    "Invalid argument: template path " ++ path ++ " leaves the root directory"
  | unreadable path failure => "Failed to read template " ++ path ++ ": " ++ failure.message
  | sandbox failure => "Failed to start expression sandbox: " ++ failure.message
  | configuration error => "Invalid configuration: " ++ error.message

structure Rendered where
  tokens : List Token
  /-- The colors for the tokens, where no others are asked for. -/
  palette : Palette
  deriving DecidableEq, Inhabited

namespace Rendered

def text (rendered : Rendered) : String :=
  toText rendered.tokens

def colored (rendered : Rendered) (palette : Option Palette) : String :=
  colorize (palette.getD rendered.palette) rendered.tokens

end Rendered

/-- The text of a template with its expressions replaced, in a sandbox of its own. -/
def expand (options : Options) (text : String) : Logged (Except Error String) := do
  if !options.evaluateExpressions then return .ok text
  match ← Script.Sandbox.withGlobals options.sandbox options.globals with
  | .error failure => return .error (.sandbox failure)
  | .ok sandbox =>
    let (expanded, _) ← (Script.Sandbox.interpolate options.errorStyle text).run sandbox
    return .ok expanded

/-- The tokens of a text, with or without its style blocks. -/
def tokensOf (options : Options) (text : String) : Logged (List Token) := do
  let tokens := tokenize text
  if !options.inlineStyles then return tokens
  Inlining.reportUnterminated tokens
  return Inlining.inlineStyles tokens

def parse (options : Options) (text : String) : Logged (Except Error Rendered) := do
  match ← expand options text with
  | .error error => return .error error
  | .ok text => return .ok ⟨← tokensOf options text, options.palette⟩

section

variable {m : Type → Type} [Monad m] [MonadLiftT Logged m]

/-- Renders the template at a path. No file is read for a path that leaves the root. -/
def read (load : Files.Load m) (options : Options) (path : String) :
    m (Except Error Rendered) := do
  if path.isEmpty then return .error .pathRequired
  match Path.resolve? options.root path with
  | none => return .error (.leavesRoot path)
  | some resolved =>
    match ← load resolved with
    | .error failure => return .error (.unreadable resolved failure)
    | .ok text => liftM (parse options text)

end

end MailTemplate.Template
