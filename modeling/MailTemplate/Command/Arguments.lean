import MailTemplate.Template.Render

/-! The arguments of the command. A configuration file is loaded before any other argument is
looked at, so that the other arguments change what it says wherever they stand. -/

namespace MailTemplate.Command

open Files Markup Template

/-- What is printed of a template. -/
inductive Output where
  | text
  | color
  | tokens
  deriving DecidableEq, Inhabited

/-- What is asked for so far. -/
structure Settings where
  options : Options
  output : Output := .text
  template : Option String := none

structure Request where
  template : String
  options : Options
  output : Output

inductive Action where
  | help
  | version
  | render (request : Request)

inductive ArgumentError where
  | valueRequired (flag : String)
  | unreadable (path : String) (failure : ReadFailure)
  | configuration (path : String) (error : Template.Error)
  | palette (path : String) (error : Json.Error)
  | unknownOption (flag : String)
  | unexpected (argument : String)
  | templateRequired

def ArgumentError.message : ArgumentError → String
  | valueRequired flag => flag ++ " requires a value"
  | unreadable path failure => "Failed to read " ++ path ++ ": " ++ failure.message
  | configuration path error => path ++ ": " ++ error.message
  | palette path error => path ++ ": invalid palette: " ++ error.message
  | unknownOption flag => "unknown option '" ++ flag ++ "'"
  | unexpected argument => "unexpected argument '" ++ argument ++ "'"
  | templateRequired => "a template path is required"

/-- The value of the first `--config` among the arguments, whatever stands before it. -/
def configPath : List String → Except ArgumentError (Option String)
  | [] => .ok none
  | "--config" :: [] => .error (.valueRequired "--config")
  | "--config" :: path :: _ => .ok (some path)
  | _ :: arguments => configPath arguments

section

variable {m : Type → Type} [Monad m]

def loadText (load : Load m) (path : String) : ExceptT ArgumentError m String := do
  match ← load path with
  | .ok text => return text
  | .error failure => throw (.unreadable path failure)

def loadOptions (load : Load m) (path : String) : ExceptT ArgumentError m Options := do
  match Options.ofText (← loadText load path) with
  | .ok options => return options
  | .error error => throw (.configuration path (.configuration error))

def loadPalette (load : Load m) (path : String) : ExceptT ArgumentError m Palette := do
  match Json.Tree.decodeText Palette.decode (← loadText load path) with
  | .ok palette => return palette
  | .error error => throw (.palette path error)

def finish (settings : Settings) : ExceptT ArgumentError m Action :=
  match settings.template with
  | some template => return .render ⟨template, settings.options, settings.output⟩
  | none => throw .templateRequired

/-- Goes through the arguments from left to right. -/
def scan (load : Load m) (settings : Settings) :
    List String → ExceptT ArgumentError m Action
  | [] => finish settings
  | "-h" :: _ | "--help" :: _ => return .help
  | "-V" :: _ | "--version" :: _ => return .version
  | ["--config"] => finish settings
  | "--config" :: _ :: arguments => scan load settings arguments
  | ["--root"] => throw (.valueRequired "--root")
  | "--root" :: root :: arguments =>
    scan load { settings with options := settings.options.withRoot root } arguments
  | ["--palette"] => throw (.valueRequired "--palette")
  | "--palette" :: path :: arguments => do
    let palette ← loadPalette load path
    scan load { settings with options := settings.options.withPalette palette } arguments
  | ["--error-style"] => throw (.valueRequired "--error-style")
  | "--error-style" :: style :: arguments =>
    scan load { settings with options := settings.options.withErrorStyle style } arguments
  | "--color" :: arguments => scan load { settings with output := .color } arguments
  | "--tokens" :: arguments => scan load { settings with output := .tokens } arguments
  | "--no-inline" :: arguments =>
    scan load { settings with options := settings.options.withoutInlining } arguments
  | "--no-eval" :: arguments =>
    scan load { settings with options := settings.options.withoutExpressions } arguments
  | argument :: arguments =>
    if argument.startsWith "--" then throw (.unknownOption argument)
    else if settings.template.isSome then throw (.unexpected argument)
    else scan load { settings with template := some argument } arguments

def parseArguments (load : Load m) (arguments : List String) :
    ExceptT ArgumentError m Action := do
  let options ← match configPath arguments with
    | .error error => throw error
    | .ok none => pure {}
    | .ok (some path) => loadOptions load path
  scan load { options := options } arguments

end

end MailTemplate.Command
