import MailTemplate.Text.Case

/-! Selectors are flat names with wildcards: `*` stands for any run of characters, also an empty
one, and `?` for exactly one. Names are compared in lower case.

The test goes through the text once for each `*` at most. When the parts after a `*` fail, only
that `*` takes one character more: an earlier `*` never has to, since whatever it would gain can
be given to the last one. -/

namespace MailTemplate.Css

namespace Pattern

inductive Part where
  | anyRun
  | anyOne
  | literal (c : Char)
  deriving DecidableEq, Inhabited

def Part.ofChar : Char → Part
  | '*' => .anyRun
  | '?' => .anyOne
  | c => .literal c

/-- How far a pattern and a text agree up to the first `*`. -/
inductive Advance where
  | mismatch
  /-- The text has ended before these parts. -/
  | ended (parts : List Part)
  /-- A `*` has been met; these parts and this text come after it. -/
  | star (parts : List Part) (text : List Char)

def advance : List Part → List Char → Advance
  | parts, [] => .ended parts
  | [], _ :: _ => .mismatch
  | .anyRun :: parts, text => .star parts text
  | .anyOne :: parts, _ :: text => advance parts text
  | .literal c :: parts, d :: text => if c == d then advance parts text else .mismatch

theorem length_lt_of_advance {parts after : List Part} {text rest : List Char}
    (h : advance parts text = .star after rest) : after.length < parts.length := by
  induction parts generalizing text with
  | nil => cases text <;> simp [advance] at h
  | cons part parts ih =>
    cases text with
    | nil => simp [advance] at h
    | cons d text =>
      cases part with
      | anyRun =>
        simp only [advance, Advance.star.injEq] at h
        simp [h.1]
      | anyOne =>
        simp only [advance] at h
        exact Nat.lt_succ_of_lt (ih h)
      | literal c =>
        simp only [advance] at h
        split at h
        · exact Nat.lt_succ_of_lt (ih h)
        · contradiction

/-- The parts that are left over when the text ends can all stand for nothing. -/
def acceptsEmpty (parts : List Part) : Bool :=
  parts.all (· == .anyRun)

/-- Whether some end of the text matches the parts. -/
def acceptsSuffix (parts : List Part) (text : List Char) : Bool :=
  match _h : advance parts text with
  | .ended parts => acceptsEmpty parts
  | .star parts text => acceptsSuffix parts text
  | .mismatch =>
    match text with
    | [] => false
    | _ :: text => acceptsSuffix parts text
termination_by (parts.length, text.length)
decreasing_by
  · exact Prod.Lex.left _ _ (length_lt_of_advance _h)
  · exact Prod.Lex.right _ (by simp)

/-- Whether the whole text matches the parts. -/
def accepts (parts : List Part) (text : List Char) : Bool :=
  match advance parts text with
  | .mismatch => false
  | .ended parts => acceptsEmpty parts
  | .star parts text => acceptsSuffix parts text

end Pattern

structure Selector where
  /-- The pattern as written. -/
  source : String
  deriving DecidableEq, Inhabited

namespace Selector

/-- The pattern is read after its letters have been mapped to lower case. -/
def parts (lower : Char → List Char) (selector : Selector) : List Pattern.Part :=
  (selector.source.toList.flatMap lower).map Pattern.Part.ofChar

def matchesWith (lower : Char → List Char) (selector : Selector) (name : String) : Bool :=
  Pattern.accepts (selector.parts lower) (name.toList.flatMap lower)

def matchesName (selector : Selector) (name : String) : Bool :=
  selector.matchesWith Text.lowercase name

end Selector

end MailTemplate.Css
