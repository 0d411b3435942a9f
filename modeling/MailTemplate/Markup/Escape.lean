/-! Text as it is written into a document, so that no character of it is read as markup. -/

namespace MailTemplate.Markup

/-- A line break is shown as one, by a tag. -/
def escapeChar : Char → String
  | '&' => "&amp;"
  | '<' => "&lt;"
  | '>' => "&gt;"
  | '"' => "&quot;"
  | '\x27' => "&#039;"
  | '\n' => "<br>"
  | c => String.singleton c

def escape (text : String) : String :=
  String.join (text.toList.map escapeChar)

end MailTemplate.Markup
