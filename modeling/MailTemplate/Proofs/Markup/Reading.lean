import Mathlib.Tactic.SplitIfs
import MailTemplate.Markup.Lexer

/-! # Reading in steps

What one character can do to the lexer, and reading a text in two halves: the tokens of a whole text
are those recorded during its first half and those of the second one, read from where the first
ended (`tokens_append`). -/

namespace MailTemplate.Markup.Lexer

theorem tokens_nil (state : State) : tokens state [] = state.token?.toList := rfl

theorem tokens_cons (state : State) (c : Char) (cs : List Char) :
    tokens state (c :: cs) = (state.step c).2.toList ++ tokens (state.step c).1 cs := rfl

/-- The tokens that are recorded while a text is read; the part that is open at its end is not. -/
def recorded (state : State) : List Char → List Token
  | [] => []
  | c :: cs => (state.step c).2.toList ++ recorded (state.step c).1 cs

theorem tokens_append (state : State) (cs ds : List Char) :
    tokens state (cs ++ ds) = recorded state cs ++ tokens (state.after cs) ds := by
  induction cs generalizing state with
  | nil => rfl
  | cons c cs ih =>
    rw [List.cons_append, tokens_cons, ih, recorded, State.after_cons, List.append_assoc]

namespace State

section

variable (buffer : String) (c : Char)

theorem step_start : step ⟨.start, buffer⟩ c =
    if c = '<' then (⟨.tagOpen, ""⟩, none) else (⟨.content, buffer.push c⟩, none) := by
  simp [step]

theorem step_content : step ⟨.content, buffer⟩ c =
    if c = '<' then (⟨.tagOpen, ""⟩, some ⟨.content, buffer⟩)
    else (⟨.content, buffer.push c⟩, none) := by
  simp [step, enter, keep, token?, Mode.kind?]

theorem step_tagOpen : step ⟨.tagOpen, buffer⟩ c =
    if c = '/' ∧ buffer = "" then (⟨.tagClose, ""⟩, none)
    else if Text.isTagBlank c then (⟨.tagContinuation, ""⟩, some ⟨.tagOpen, buffer.push c⟩)
    else if c = '>' then (⟨.content, ""⟩, some ⟨.tagOpen, buffer⟩)
    else (⟨.tagOpen, buffer.push c⟩, none) := by
  simp [step, stepTagName, enter, keep, token?, Mode.kind?]

theorem step_tagClose : step ⟨.tagClose, buffer⟩ c =
    if Text.isTagBlank c then (⟨.tagContinuation, ""⟩, some ⟨.tagClose, buffer.push c⟩)
    else if c = '>' then (⟨.content, ""⟩, some ⟨.tagClose, buffer⟩)
    else (⟨.tagClose, buffer.push c⟩, none) := by
  simp [step, stepTagName, enter, keep, token?, Mode.kind?]

theorem step_tagContinuation : step ⟨.tagContinuation, buffer⟩ c =
    if Text.isTagBlank c then (⟨.tagContinuation, ""⟩, some ⟨.tagContinuation, buffer.push c⟩)
    else if c = '>' then (⟨.content, ""⟩, some ⟨.tagContinuation, buffer⟩)
    else (⟨.attributeName, String.singleton c⟩, some ⟨.tagContinuation, buffer⟩) := by
  simp [step, enter, keep, token?, Mode.kind?]

theorem step_attributeName : step ⟨.attributeName, buffer⟩ c =
    if c = '=' then (⟨.attributeEquals, "="⟩, some ⟨.attributeName, buffer⟩)
    else if Text.isTagBlank c then
      (⟨.tagContinuation, String.singleton c⟩, some ⟨.attributeName, buffer⟩)
    else if c = '>' then (⟨.content, ""⟩, some ⟨.attributeName, buffer⟩)
    else (⟨.attributeName, buffer.push c⟩, none) := by
  simp [step, enter, keep, token?, Mode.kind?]

theorem step_attributeEquals : step ⟨.attributeEquals, buffer⟩ c =
    if c = '"' then (⟨.attributeValue, ""⟩, some ⟨.attributeEquals, buffer⟩)
    else if c = '>' then (⟨.content, ""⟩, some ⟨.attributeEquals, buffer⟩)
    else (⟨.attributeEquals, buffer⟩, none) := by
  simp [step, enter, token?, Mode.kind?]

theorem step_attributeValue : step ⟨.attributeValue, buffer⟩ c =
    if c = '"' then (⟨.tagContinuation, ""⟩, some ⟨.attributeValue, buffer⟩)
    else (⟨.attributeValue, buffer.push c⟩, none) := by
  simp [step, enter, keep, token?, Mode.kind?]

end

/-- Only the open part is recorded. -/
theorem kind_of_step {state : State} {c : Char} {token : Token}
    (h : (state.step c).2 = some token) : state.mode.kind? = some token.kind := by
  obtain ⟨mode, buffer⟩ := state
  cases mode <;> simp only [step, stepTagName, enter, keep, token?, Mode.kind?] at h ⊢ <;>
    split_ifs at h <;> cases h <;> rfl

/-- Without a token, the part that was open stays open, or it has just been found out what it is. -/
theorem mode_of_step {state : State} {c : Char} (h : (state.step c).2 = none) :
    (state.step c).1.mode = state.mode ∨
      (state.mode = .start ∧
        ((state.step c).1.mode = .tagOpen ∨ (state.step c).1.mode = .content)) ∨
      state.mode = .tagOpen ∧ (state.step c).1.mode = .tagClose := by
  obtain ⟨mode, buffer⟩ := state
  cases mode <;> simp only [step, stepTagName, enter, keep, token?, Mode.kind?] at h ⊢ <;>
    split_ifs at h ⊢ <;> simp_all

theorem mode_step_ne_start (state : State) (c : Char) : (state.step c).1.mode ≠ .start := by
  obtain ⟨mode, buffer⟩ := state
  cases mode <;> simp only [step, stepTagName, enter, keep] <;> split_ifs <;> simp

theorem mode_after_ne_start {state : State} (h : state.mode ≠ .start) (cs : List Char) :
    (state.after cs).mode ≠ .start := by
  induction cs generalizing state with
  | nil => exact h
  | cons c cs ih => exact ih (state.mode_step_ne_start c)

end State

end MailTemplate.Markup.Lexer
