import MailTemplate.Markup.Token

/-! Reading a text as tokens. The lexer takes the text one character at a time and never fails:
what it cannot make sense of stays in the part of the document that is open at that point, and
the end of the text ends that part. A part is recorded when it ends, also an empty one, since an
empty token tells a writer where a tag was closed. -/

namespace MailTemplate.Markup

namespace Lexer

/-- The part of the document that is being read. -/
inductive Mode where
  | start
  | tagOpen
  | tagClose
  | tagContinuation
  | attributeName
  | attributeEquals
  | attributeValue
  | content
  deriving DecidableEq, Inhabited

/-- The kind of token that a part is recorded as; nothing is recorded of the start. -/
def Mode.kind? : Mode → Option Kind
  | .start => none
  | .tagOpen => some .tagOpen
  | .tagClose => some .tagClose
  | .tagContinuation => some .tagContinuation
  | .attributeName => some .attributeName
  | .attributeEquals => some .attributeEquals
  | .attributeValue => some .attributeValue
  | .content => some .content

structure State where
  mode : Mode
  /-- What has been read of the open part. -/
  buffer : String
  deriving DecidableEq, Inhabited

namespace State

def initial : State :=
  ⟨.start, ""⟩

/-- The open part as a token. -/
def token? (state : State) : Option Token :=
  state.mode.kind?.map (⟨·, state.buffer⟩)

def keep (state : State) (c : Char) : State × Option Token :=
  (⟨state.mode, state.buffer.push c⟩, none)

/-- Ends the open part and opens another with the text `buffer`. -/
def enter (state : State) (mode : Mode) (buffer : String) : State × Option Token :=
  (⟨mode, buffer⟩, state.token?)

/-- One more character of a tag name; the blank that ends the name is a part of it. -/
def stepTagName (state : State) (c : Char) : State × Option Token :=
  if Text.isTagBlank c then (state.keep c).1.enter .tagContinuation ""
  else if c == '>' then state.enter .content ""
  else state.keep c

/-- The state after one more character, and the token that the character ended. A slash at the
start of a tag name makes a closing tag; between the `=` and the opening quote of a value
everything is passed over. -/
def step (state : State) (c : Char) : State × Option Token :=
  match state.mode with
  | .start =>
    if c == '<' then (⟨.tagOpen, ""⟩, none) else (⟨.content, state.buffer.push c⟩, none)
  | .content =>
    if c == '<' then state.enter .tagOpen "" else state.keep c
  | .tagOpen =>
    if c == '/' && state.buffer.isEmpty then (⟨.tagClose, ""⟩, none)
    else state.stepTagName c
  | .tagClose => state.stepTagName c
  | .tagContinuation =>
    if Text.isTagBlank c then (state.keep c).1.enter .tagContinuation ""
    else if c == '>' then state.enter .content ""
    else state.enter .attributeName (String.singleton c)
  | .attributeName =>
    if c == '=' then state.enter .attributeEquals "="
    else if Text.isTagBlank c then state.enter .tagContinuation (String.singleton c)
    else if c == '>' then state.enter .content ""
    else state.keep c
  | .attributeEquals =>
    if c == '"' then state.enter .attributeValue ""
    else if c == '>' then state.enter .content ""
    else (state, none)
  | .attributeValue =>
    if c == '"' then state.enter .tagContinuation "" else state.keep c

/-- The state after a text. -/
def after (state : State) (cs : List Char) : State :=
  cs.foldl (fun state c => (state.step c).1) state

@[simp] theorem after_nil (state : State) : state.after [] = state := rfl

@[simp] theorem after_cons (state : State) (c : Char) (cs : List Char) :
    state.after (c :: cs) = (state.step c).1.after cs := rfl

theorem after_append (state : State) (cs ds : List Char) :
    state.after (cs ++ ds) = (state.after cs).after ds := by
  simp [after, List.foldl_append]

end State

/-- The tokens of a text that is read from `state` on and ends there. -/
def tokens (state : State) : List Char → List Token
  | [] => state.token?.toList
  | c :: cs =>
    let (next, ended) := state.step c
    ended.toList ++ tokens next cs

end Lexer

def tokenize (text : String) : List Token :=
  Lexer.tokens .initial text.toList

end MailTemplate.Markup
