import MailTemplate.Markup.Token

/-! Where the tags of a token list are. -/

namespace MailTemplate.Markup

/-- A tag at position `tag`, with its attribute tokens up to, but not including, position
`stop`. -/
structure TagSpan where
  tag : Nat
  stop : Nat
  deriving DecidableEq, Inhabited

/-- The attribute tokens at the head of a list. -/
def attributesOf (tokens : List Token) : List Token :=
  tokens.takeWhile Token.isAttribute

theorem attributesOf_cons_of_pos {token : Token} (h : token.isAttribute = true)
    (tokens : List Token) : attributesOf (token :: tokens) = token :: attributesOf tokens :=
  List.takeWhile_cons_of_pos h

theorem attributesOf_cons_of_neg {token : Token} (h : ¬ token.isAttribute = true)
    (tokens : List Token) : attributesOf (token :: tokens) = [] :=
  List.takeWhile_cons_of_neg h

/-- The tags of a list whose first token has position `position`. -/
def tagSpansFrom (position : Nat) : List Token → List TagSpan
  | [] => []
  | token :: tokens =>
    if token.isTag then
      ⟨position, position + 1 + (attributesOf tokens).length⟩ :: tagSpansFrom (position + 1) tokens
    else tagSpansFrom (position + 1) tokens

def tagSpans (tokens : List Token) : List TagSpan :=
  tagSpansFrom 0 tokens

end MailTemplate.Markup
