import MailTemplate.Command.Run

/-! The command. -/

namespace MailTemplate

open Files

/-- Records are kept while files are read. -/
abbrev Session := StateT (List Log.Record) IO

instance : MonadLift Logged Session where
  monadLift logged := fun records => return logged.run records

def readFailure : IO.Error → ReadFailure
  | .noFileOrDirectory .. => .notFound
  | .inappropriateType .. => .isDirectory
  | error => .other error.toString

def load : Load Session := fun path => do
  if path.contains '\x00' then return .error .nulInPath
  try
    let bytes ← IO.FS.readBinFile path
    match String.fromUTF8? bytes with
    | some text => return .ok text
    | none => return .error .invalidText
  catch error => return .error (readFailure error)

end MailTemplate

open MailTemplate in
def main (arguments : List String) : IO UInt32 := do
  let (result, records) ← (Command.run load "mailstyle" arguments).run []
  (← IO.getStderr).putStr (Command.logText records ++ result.errors)
  (← IO.getStdout).putStr result.output
  return if result.success then 0 else 1
