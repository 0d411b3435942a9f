import MailTemplate.Markup.Writer

/-! Colors for tokens on a terminal. -/

namespace MailTemplate.Markup

inductive ConsoleColor where
  | fgBlack
  | fgRed
  | fgGreen
  | fgYellow
  | fgBlue
  | fgMagenta
  | fgCyan
  | fgWhite
  | bgBlack
  | bgRed
  | bgGreen
  | bgYellow
  | bgBlue
  | bgMagenta
  | bgCyan
  | bgWhite
  deriving DecidableEq, Inhabited

/-- The number that selects the color on a terminal. -/
def ConsoleColor.code : ConsoleColor → UInt8
  | fgBlack => 30
  | fgRed => 31
  | fgGreen => 32
  | fgYellow => 33
  | fgBlue => 34
  | fgMagenta => 35
  | fgCyan => 36
  | fgWhite => 37
  | bgBlack => 40
  | bgRed => 41
  | bgGreen => 42
  | bgYellow => 43
  | bgBlue => 44
  | bgMagenta => 45
  | bgCyan => 46
  | bgWhite => 47

/-- The codes for the text and for what is behind it; either may be left as it is. -/
structure TokenColor where
  foreground : Option UInt8 := none
  background : Option UInt8 := none
  deriving DecidableEq, Inhabited

namespace TokenColor

def ofForeground (color : ConsoleColor) : TokenColor where
  foreground := some color.code

def withBackground (color : TokenColor) (background : ConsoleColor) : TokenColor :=
  { color with background := some background.code }

/-- The sequence that a terminal reads as a change of color. -/
def sequence (code : UInt8) : String :=
  "\x1b[" ++ toString code.toNat ++ "m"

/-- Sets the colors, the background first, and resets them after the text. -/
def paint (color : TokenColor) (text : String) : String :=
  (color.background.elim "" sequence) ++ (color.foreground.elim "" sequence) ++ text ++ sequence 0

end TokenColor

structure Palette where
  tagOpen : TokenColor := .ofForeground .fgCyan
  tagClose : TokenColor := .ofForeground .fgCyan
  content : TokenColor := .ofForeground .fgWhite
  tagContinuation : TokenColor := .ofForeground .fgRed
  attributeName : TokenColor := .ofForeground .fgYellow
  attributeEquals : TokenColor := .ofForeground .fgWhite
  attributeValue : TokenColor := .ofForeground .fgGreen
  deriving DecidableEq, Inhabited

namespace Palette

def get (palette : Palette) : Kind → TokenColor
  | .tagOpen => palette.tagOpen
  | .tagClose => palette.tagClose
  | .content => palette.content
  | .tagContinuation => palette.tagContinuation
  | .attributeName => palette.attributeName
  | .attributeEquals => palette.attributeEquals
  | .attributeValue => palette.attributeValue

def set (palette : Palette) (kind : Kind) (color : TokenColor) : Palette :=
  match kind with
  | .tagOpen => { palette with tagOpen := color }
  | .tagClose => { palette with tagClose := color }
  | .content => { palette with content := color }
  | .tagContinuation => { palette with tagContinuation := color }
  | .attributeName => { palette with attributeName := color }
  | .attributeEquals => { palette with attributeEquals := color }
  | .attributeValue => { palette with attributeValue := color }

theorem get_set (palette : Palette) (kind other : Kind) (color : TokenColor) :
    (palette.set kind color).get other = if other = kind then color else palette.get other := by
  cases kind <;> cases other <;> rfl

theorem ext_get {palette other : Palette} (h : ∀ kind, palette.get kind = other.get kind) :
    palette = other := by
  have := h .tagOpen
  have := h .tagClose
  have := h .content
  have := h .tagContinuation
  have := h .attributeName
  have := h .attributeEquals
  have := h .attributeValue
  cases palette
  cases other
  simp_all [get]

end Palette

/-- The document with the text of each token in its color; the punctuation has none. -/
def colorize (palette : Palette) (tokens : List Token) : String :=
  writeWith (fun token => (palette.get token.kind).paint token.text) tokens

end MailTemplate.Markup
