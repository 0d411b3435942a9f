import MailTemplate.Markup.Token

/-! Writing tokens as a text. The punctuation of a token is not in its text and depends on its
neighbours alone: the content after a tag tells that the tag was closed. -/

namespace MailTemplate.Markup

/-- What is written before and after the text of a token of kind `kind`. A tag name closes its
tag itself if content follows it at once; after attribute tokens the content does. -/
def punctuation (before after : Option Kind) (kind : Kind) : String × String :=
  match kind with
  | .tagOpen => ("<", if after = some .content then ">" else "")
  | .tagClose => ("</", if after = some .content then ">" else "")
  | .content => (if before.any Kind.isAttribute then ">" else "", "")
  | .attributeValue => ("\"", "\"")
  | .tagContinuation | .attributeName | .attributeEquals => ("", "")

/-- The tokens after one of kind `before`, with `render` for the text of each. -/
def writeFrom (render : Token → String) (before : Option Kind) : List Token → String
  | [] => ""
  | token :: tokens =>
    let (left, right) := punctuation before (tokens.head?.map Token.kind) token.kind
    left ++ render token ++ right ++ writeFrom render (some token.kind) tokens

def writeWith (render : Token → String) (tokens : List Token) : String :=
  Text.trim (writeFrom render none tokens)

def toText (tokens : List Token) : String :=
  writeWith Token.text tokens

end MailTemplate.Markup
