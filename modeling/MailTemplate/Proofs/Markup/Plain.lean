import MailTemplate.Proofs.Markup.Legible
import MailTemplate.Proofs.Markup.TokenText

/-! # Plain white space

Unicode has more white space than tags have blanks. In a plain text there is no other white space
than blanks, so that what is trimmed of it does not matter in a tag. Its tokens are plain
(`plain_tokenize`), and plain tokens are written as a plain text (`plainBlanks_writtenIn`). -/

namespace MailTemplate.Markup

/-- All white space of a text separates the parts of a tag, too. -/
def PlainBlanks (text : List Char) : Prop :=
  ∀ c ∈ text, Text.isBlank c = true → Text.isTagBlank c = true

instance (text : List Char) : Decidable (PlainBlanks text) :=
  List.decidableBAll (fun c => Text.isBlank c = true → Text.isTagBlank c = true) text

/-- The text ends in white space that is no blank of a tag. -/
def Token.endsInWideBlank (token : Token) : Bool :=
  token.text.toList.getLast?.any fun c => Text.isBlank c && !Text.isTagBlank c

theorem isTagBlank_getLast? {token : Token} (h : token.endsInWideBlank = false) :
    token.text.toList.getLast?.any Text.isTagBlank =
      token.text.toList.getLast?.any Text.isBlank := by
  unfold Token.endsInWideBlank at h
  cases hlast : token.text.toList.getLast? with
  | none => rfl
  | some c =>
    rw [hlast, Option.any_some] at h
    refine Bool.eq_iff_iff.mpr ⟨Text.isBlank_of_isTagBlank, fun hblank => ?_⟩
    simpa [show Text.isBlank c = true from hblank] using h

theorem PlainBlanks.endsInWideBlank {token : Token} (h : PlainBlanks token.text.toList) :
    token.endsInWideBlank = false := by
  unfold Token.endsInWideBlank
  cases hlast : token.text.toList.getLast? with
  | none => rfl
  | some c =>
    have hc := h c (List.mem_of_getLast? hlast)
    cases hblank : Text.isBlank c with
    | true => simp [hblank, hc hblank]
    | false => simp [hblank]

theorem PlainBlanks.append {text more : List Char} (h : PlainBlanks text)
    (hmore : PlainBlanks more) : PlainBlanks (text ++ more) :=
  List.forall_mem_append.mpr ⟨h, hmore⟩

/-- All tokens of a stream have plain texts. -/
def Plain (tokens : List Token) : Prop :=
  ∀ token ∈ tokens, PlainBlanks token.text.toList

theorem plain_append {tokens rest : List Token} : Plain (tokens ++ rest) ↔ Plain tokens ∧ Plain rest :=
  List.forall_mem_append

theorem plain_cons {token : Token} {tokens : List Token} :
    Plain (token :: tokens) ↔ PlainBlanks token.text.toList ∧ Plain tokens :=
  List.forall_mem_cons

namespace Lexer

/-- A character becomes a part of the open part, of the token that it ends, or of none. -/
theorem State.plainBlanks_step {state : State} (h : PlainBlanks state.buffer.toList) {c : Char}
    (hc : PlainBlanks [c]) :
    PlainBlanks (state.step c).1.buffer.toList ∧
      Plain (state.step c).2.toList := by
  obtain ⟨mode, buffer⟩ := state
  have hpush : PlainBlanks (buffer.push c).toList := by
    rw [String.toList_push]
    exact h.append hc
  have hempty : PlainBlanks "".toList := by decide
  have hsign : PlainBlanks "=".toList := by decide
  have hsingle : PlainBlanks (String.singleton c).toList := by simpa using hc
  cases mode <;>
    simp only [State.step_start, State.step_content, State.step_tagOpen, State.step_tagClose,
      State.step_tagContinuation, State.step_attributeName, State.step_attributeEquals,
      State.step_attributeValue] <;>
    split_ifs <;> refine ⟨?_, ?_⟩ <;> simp_all [Plain]

theorem plain_tokens {state : State} (h : PlainBlanks state.buffer.toList) {cs : List Char}
    (hcs : PlainBlanks cs) : Plain (tokens state cs) := by
  induction cs generalizing state with
  | nil =>
    intro token hmem
    obtain ⟨kind, -, rfl⟩ := Option.map_eq_some_iff.mp (Option.mem_toList.mp hmem)
    exact h
  | cons c cs ih =>
    obtain ⟨hc, hcs⟩ := List.forall_mem_cons.mp hcs
    obtain ⟨hbuffer, hended⟩ := State.plainBlanks_step h (List.forall_mem_singleton.mpr hc)
    rw [tokens_cons]
    exact plain_append.mpr ⟨hended, ih hbuffer hcs⟩

end Lexer

theorem plain_tokenize {text : String} (h : PlainBlanks text.toList) : Plain (tokenize text) :=
  have hempty : PlainBlanks Lexer.State.initial.buffer.toList := by decide
  Lexer.plain_tokens hempty h

theorem plainBlanks_textIn {token : Token} (h : PlainBlanks token.text.toList) (inTag : Bool) :
    PlainBlanks (textIn inTag token) := by
  have hopen : PlainBlanks ['<'] := by decide
  have hslash : PlainBlanks ['/'] := by decide
  have hend : PlainBlanks ['>'] := by decide
  have hquote : PlainBlanks ['"'] := by decide
  obtain ⟨kind, text⟩ := token
  cases kind with
  | tagOpen => exact hopen.append h
  | tagClose => exact hopen.append (hslash.append h)
  | content =>
    cases inTag with
    | true => exact hend.append h
    | false => exact h
  | attributeValue => exact (hquote.append h).append hquote
  | tagContinuation | attributeName | attributeEquals => exact h

theorem plainBlanks_writtenIn {tokens : List Token} (h : Plain tokens) (inTag : Bool) :
    PlainBlanks (writtenIn inTag tokens) := by
  induction tokens generalizing inTag with
  | nil => simp [writtenIn, PlainBlanks]
  | cons token tokens ih =>
    obtain ⟨htoken, htokens⟩ := plain_cons.mp h
    exact (plainBlanks_textIn htoken inTag).append (ih htokens _)

end MailTemplate.Markup
