/-! Records of what happens while a template is rendered. -/

namespace MailTemplate

namespace Log

inductive Level where
  | error
  | warn
  | info
  | debug
  deriving DecidableEq, Inhabited

def Level.label : Level → String
  | error => "ERROR"
  | warn => "WARN"
  | info => "INFO"
  | debug => "DEBUG"

/-- The part of the program that a record comes from. -/
inductive Source where
  | command
  | interpolation
  | console
  | styleBlocks
  deriving DecidableEq, Inhabited

def Source.label : Source → String
  | command => "mailstyle"
  | interpolation => "mailstyle_js::interpolate"
  | console => "mailstyle_js::console"
  | styleBlocks => "mailstyle_style::collect"

structure Record where
  level : Level
  source : Source
  message : String
  deriving DecidableEq, Inhabited

end Log

/-- A monad in which records can be left. -/
class MonadLog (m : Type → Type) where
  record : Log.Record → m Unit

export MonadLog (record)

instance {m n : Type → Type} [MonadLift m n] [MonadLog m] : MonadLog n where
  record r := monadLift (MonadLog.record r : m Unit)

/-- Computations that leave records, in their order. -/
abbrev Logged := StateM (List Log.Record)

instance : MonadLog Logged where
  record r := modify (· ++ [r])

end MailTemplate
