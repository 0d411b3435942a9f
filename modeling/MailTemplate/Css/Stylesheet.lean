import MailTemplate.Css.Declarations
import MailTemplate.Css.Selector

/-! A stylesheet is a list of rules for tag names and one for class names. It is read from the
flat part of CSS: blocks with one name before them, and no comments, combinators or at-rules.
Reading never fails; a block without a name gives no rule. -/

namespace MailTemplate.Css

/-- What the names that a selector matches are names of. -/
inductive Subject where
  | element
  | ofClass
  deriving DecidableEq, Inhabited

structure Rule where
  selector : Selector
  declarations : String
  deriving DecidableEq, Inhabited

structure Stylesheet where
  elements : List Rule := []
  classes : List Rule := []
  deriving DecidableEq, Inhabited

namespace Stylesheet

def rules (sheet : Stylesheet) : Subject → List Rule
  | .element => sheet.elements
  | .ofClass => sheet.classes

def isEmpty (sheet : Stylesheet) : Bool :=
  sheet.elements.isEmpty && sheet.classes.isEmpty

/-- Adds a rule after those that there are for the subject. -/
def push (sheet : Stylesheet) (subject : Subject) (rule : Rule) : Stylesheet :=
  match subject with
  | .element => { sheet with elements := sheet.elements ++ [rule] }
  | .ofClass => { sheet with classes := sheet.classes ++ [rule] }

/-- The rules of a list in two lists. -/
def ofRules (rules : List (Subject × Rule)) : Stylesheet where
  elements := (rules.filter (·.1 == .element)).map Prod.snd
  classes := (rules.filter (·.1 == .ofClass)).map Prod.snd

theorem ofRules_append_single (rules : List (Subject × Rule)) (subject : Subject) (rule : Rule) :
    ofRules (rules ++ [(subject, rule)]) = (ofRules rules).push subject rule := by
  cases subject <;> simp [ofRules, push]

end Stylesheet

namespace Scan

/-- The part of a stylesheet that is being read, with what has been read of it. -/
inductive State where
  /-- Between rules. -/
  | idle
  | selector (subject : Subject) (text : String)
  | declarations (subject : Subject) (name : String) (text : String)
  /-- In a block that has no name. -/
  | anonymous
  deriving DecidableEq, Inhabited

/-- The state after one more character, and the rule that the character ended. A selector that a
`}` ends is dropped. -/
def step : State → Char → State × Option (Subject × Rule)
  | .idle, c =>
    if c == '.' then (.selector .ofClass "", none)
    else if c == '{' then (.anonymous, none)
    else if c == '}' || Text.isBlank c then (.idle, none)
    else (.selector .element (String.singleton c), none)
  | .selector subject text, c =>
    if c == '{' then (.declarations subject (Text.trim text) "", none)
    else if c == '}' then (.idle, none)
    else (.selector subject (text.push c), none)
  | .declarations subject name text, c =>
    if c == '}' then (.idle, rule? subject name text)
    else (.declarations subject name (text.push c), none)
  | .anonymous, c => if c == '}' then (.idle, none) else (.anonymous, none)
where
  rule? (subject : Subject) (name text : String) : Option (Subject × Rule) :=
    if name.isEmpty then none else some (subject, ⟨⟨name⟩, normalizeDeclarations text⟩)

/-- The rules that end in a text that is read from `state` on. -/
def rules (state : State) : List Char → List (Subject × Rule)
  | [] => []
  | c :: cs =>
    let (next, ended) := step state c
    ended.toList ++ rules next cs

end Scan

def Stylesheet.parse (text : String) : Stylesheet :=
  .ofRules (Scan.rules .idle text.toList)

end MailTemplate.Css
