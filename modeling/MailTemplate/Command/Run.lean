import MailTemplate.Command.Arguments
import MailTemplate.Terminal

/-! What the command prints. The document goes to one stream; the records and the reason for a
failure go to the other one. -/

namespace MailTemplate.Command

open Files Template

def version : String := "0.1.0"

def usage (program : String) : String :=
  "Mailstyle " ++ version ++ " - Render email templates with inlined styles\n" ++
  "\n" ++
  "USAGE:\n" ++
  "    " ++ program ++ " [OPTIONS] <TEMPLATE>\n" ++
  "\n" ++
  "OPTIONS:\n" ++
  "    -h, --help             Print this help message\n" ++
  "    -V, --version          Print version information\n" ++
  "    --root <DIR>           Resolve the template path against DIR\n" ++
  "    --config <FILE>        Load options from a JSON file\n" ++
  "    --palette <FILE>       Load token colors from a JSON file\n" ++
  "    --error-style <CSS>    Declarations for failed-expression spans\n" ++
  "    --color                Print the document colorized by token kind\n" ++
  "    --tokens               Print the token stream as JSON\n" ++
  "    --no-inline            Keep <style> blocks and class attributes\n" ++
  "    --no-eval              Leave \x7b\x7b expressions \x7d\x7d unevaluated\n" ++
  "\n" ++
  "EXAMPLES:\n" ++
  "    " ++ program ++ " welcome.html\n" ++
  "    " ++ program ++ " --root templates --config mail.json welcome.html\n" ++
  "    " ++ program ++ " --color --no-eval welcome.html\n" ++
  "\n" ++
  "\n"

/-- What a run of the command prints, and whether it succeeds. -/
structure Result where
  success : Bool
  output : String
  errors : String
  deriving DecidableEq, Inhabited

namespace Result

def printed (output : String) : Result :=
  ⟨true, output, ""⟩

def failed (errors : String) : Result :=
  ⟨false, "", errors⟩

end Result

def padded (label : String) : String :=
  label ++ String.ofList (List.replicate (5 - label.length) ' ')

/-- The lines of a message after the first are indented. -/
def indented (message : String) : String :=
  "\n    ".intercalate (message.splitOn "\n")

/-- The line for a record, or the lines; a terminal would act on nothing in them. -/
def logLine (r : Log.Record) : String :=
  Terminal.plain
    ("[" ++ padded r.level.label ++ " " ++ r.source.label ++ "] " ++ indented r.message ++ "\n")

/-- The lines for the records; those for debugging are left out. -/
def logText (records : List Log.Record) : String :=
  String.join ((records.filter (·.level != .debug)).map logLine)

def document (output : Output) (rendered : Rendered) : String :=
  match output with
  | .text => rendered.text
  | .color => rendered.colored none
  | .tokens => (Json.Value.array (rendered.tokens.map Markup.Token.toJson)).pretty

def errorLine (message : String) : String :=
  "Error: " ++ message ++ "\n"

def usageLine (program : String) : String :=
  "Run '" ++ program ++ " --help' for usage.\n"

def startRecord (template : String) : Log.Record where
  level := .info
  source := .command
  message := "Rendering " ++ template

section

variable {m : Type → Type} [Monad m] [MonadLiftT Logged m]

def render (load : Load m) (request : Request) : m Result := do
  liftM (record (startRecord request.template) : Logged Unit)
  match ← Template.read load request.options request.template with
  | .error error => return .failed (errorLine error.message)
  | .ok rendered => return .printed (document request.output rendered ++ "\n")

/-- The command, which is called by the name `program`. -/
def run (load : Load m) (program : String) (arguments : List String) : m Result := do
  match ← (parseArguments load arguments).run with
  | .ok .help => return .printed (usage program)
  | .ok .version => return .printed ("Mailstyle " ++ version ++ "\n")
  | .ok (.render request) => render load request
  | .error error => return .failed (errorLine error.message ++ usageLine program)

end

end MailTemplate.Command
