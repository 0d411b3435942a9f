import MailTemplate.Text.Blank

/-! Declarations as they stand in a `style` attribute: each is trimmed and ends with a
semicolon, and none is empty. -/

namespace MailTemplate.Css

/-- Line breaks and tabs become spaces, so that they still separate what they separated. -/
def flattenBlank (c : Char) : Char :=
  if c == '\r' || c == '\n' || c == '\t' then ' ' else c

/-- The declarations of a block, trimmed; empty ones are dropped. -/
def declarationsOf (block : List Char) : List (List Char) :=
  ((Text.split (· == ';') (block.map flattenBlank)).map Text.trimChars).filter (!·.isEmpty)

def normalizeDeclarations (block : String) : String :=
  String.ofList ((declarationsOf block.toList).flatMap (· ++ [';']))

end MailTemplate.Css
