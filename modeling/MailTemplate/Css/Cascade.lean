import MailTemplate.Css.Stylesheet

/-! Which declarations apply to a tag. -/

namespace MailTemplate.Css

/-- The rules for a name, in their order. -/
def matching (rules : List Rule) (name : String) : List Rule :=
  rules.filter (·.selector.matchesName name)

/-- The rules for the classes come first, class by class, and those for the tag name last. A rule
that several classes match applies several times. -/
def rulesFor (sheet : Stylesheet) (tag : String) (classes : List String) : List Rule :=
  classes.flatMap (matching sheet.classes) ++ matching sheet.elements tag

def declarationsFor (sheet : Stylesheet) (tag : String) (classes : List String) : String :=
  String.join ((rulesFor sheet tag classes).map Rule.declarations)

end MailTemplate.Css
