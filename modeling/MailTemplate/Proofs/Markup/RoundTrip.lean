import MailTemplate.Proofs.Markup.Written
import MailTemplate.Proofs.Text.Trim

/-! # Reading and writing a text

Of a text that is read and written again, only what stands between an `=` and the quote of its value
is lost, and a value that it never closes is closed (`toText_tokenize`). Reading and writing it once
more does nothing, since white space around a text does not change how it is read
(`Whole.trimChars`). -/

namespace MailTemplate.Markup

namespace Lexer

/-! ## Texts that lose nothing -/

theorem heeded_append (state : State) (cs ds : List Char) :
    heeded state (cs ++ ds) = heeded state cs ++ heeded (state.after cs) ds := by
  induction cs generalizing state with
  | nil => rfl
  | cons c cs ih => simp [heeded, ih]

theorem heeded_sublist (state : State) (cs : List Char) : (heeded state cs).Sublist cs := by
  induction cs generalizing state with
  | nil => exact .slnil
  | cons c cs ih =>
    rw [heeded]
    split_ifs
    · exact (ih _).cons c
    · exact (ih _).cons_cons c

/-- A text loses nothing if its two halves do not. -/
theorem heeded_append_eq_self {state : State} {cs ds : List Char} :
    heeded state (cs ++ ds) = cs ++ ds ↔
      heeded state cs = cs ∧ heeded (state.after cs) ds = ds := by
  rw [heeded_append]
  constructor
  · intro h
    have hcs := (heeded_sublist state cs).length_le
    have hds := (heeded_sublist (state.after cs) ds).length_le
    have hlength := congrArg List.length h
    simp only [List.length_append] at hlength
    exact List.append_inj h (by omega)
  · rintro ⟨hcs, hds⟩
    rw [hcs, hds]

theorem heeded_eq_self {state : State} {cs : List Char}
    (h : ∀ (n : Nat) (hn : n < cs.length), (state.after (cs.take n)).passesOver cs[n] = false) :
    heeded state cs = cs := by
  induction cs generalizing state with
  | nil => rfl
  | cons c cs ih =>
    have hc : state.passesOver c = false := h 0 (Nat.succ_pos _)
    have hcs : heeded (state.step c).1 cs = cs :=
      ih fun n hn => h (n + 1) (Nat.succ_lt_succ hn)
    rw [heeded, hc, hcs]
    rfl

theorem heeded_heeded (state : State) (cs : List Char) :
    heeded state (heeded state cs) = heeded state cs ∧
      state.after (heeded state cs) = state.after cs := by
  induction cs generalizing state with
  | nil => exact ⟨rfl, rfl⟩
  | cons c cs ih =>
    by_cases hc : state.passesOver c = true
    · have hrest := ih state
      simpa [heeded, hc, step_of_passesOver hc] using hrest
    · obtain ⟨hheeded, hafter⟩ := ih (state.step c).1
      simp [heeded, hc, hheeded, hafter]

/-- A text of which nothing is lost and to which nothing is added. -/
structure Whole (cs : List Char) : Prop where
  heeded : heeded .initial cs = cs
  mode : (State.initial.after cs).mode ≠ .attributeValue

theorem State.heeded_closing (state : State) : Lexer.heeded state state.closing = state.closing := by
  unfold State.closing
  split
  · next h => simp [Lexer.heeded, State.passesOver, h]
  · rfl

theorem State.mode_after_closing (state : State) :
    (state.after state.closing).mode ≠ .attributeValue := by
  obtain ⟨mode, buffer⟩ := state
  unfold State.closing
  split
  · next h =>
    obtain rfl : mode = .attributeValue := h
    simp [State.step_attributeValue]
  · next h => exact h

/-! ## Blanks around a text -/

namespace State

/-- No tag has been opened yet, or the last one was closed. -/
def OutsideTags (state : State) : Prop :=
  state.mode = .start ∨ state.mode = .content

/-- States that differ in the content before the next tag only. -/
def Alike (state other : State) : Prop :=
  state = other ∨ state.OutsideTags ∧ other.OutsideTags

theorem OutsideTags.step {state : State} (h : state.OutsideTags) (c : Char) :
    (state.step c).1 = if c = '<' then ⟨.tagOpen, ""⟩ else ⟨.content, state.buffer.push c⟩ := by
  obtain ⟨mode, buffer⟩ := state
  rcases h with h | h
  · obtain rfl : mode = .start := h
    rw [step_start]
    split <;> rfl
  · obtain rfl : mode = .content := h
    rw [step_content]
    split <;> rfl

theorem Alike.step {state other : State} (h : state.Alike other) (c : Char) :
    (state.step c).1.Alike (other.step c).1 := by
  rcases h with rfl | ⟨hstate, hother⟩
  · exact .inl rfl
  · rw [hstate.step, hother.step]
    split
    · exact .inl rfl
    · exact .inr ⟨.inr rfl, .inr rfl⟩

theorem Alike.passesOver {state other : State} (h : state.Alike other) (c : Char) :
    state.passesOver c = other.passesOver c := by
  rcases h with rfl | ⟨hstate, hother⟩
  · rfl
  · unfold State.passesOver
    rcases hstate with hstate | hstate <;> rcases hother with hother | hother <;>
      rw [hstate, hother] <;> rfl

theorem Alike.after {state other : State} (h : state.Alike other) (cs : List Char) :
    (state.after cs).Alike (other.after cs) := by
  induction cs generalizing state other with
  | nil => exact h
  | cons c cs ih => exact ih (h.step c)

theorem Alike.heeded {state other : State} (h : state.Alike other) (cs : List Char) :
    Lexer.heeded state cs = Lexer.heeded other cs := by
  induction cs generalizing state other with
  | nil => rfl
  | cons c cs ih => rw [Lexer.heeded, Lexer.heeded, h.passesOver, ih (h.step c)]

/-- Blanks outside of tags are content. -/
theorem OutsideTags.after_blanks {state : State} (h : state.OutsideTags) {cs : List Char}
    (hcs : ∀ c ∈ cs, Text.isBlank c = true) : (state.after cs).OutsideTags := by
  induction cs generalizing state with
  | nil => exact h
  | cons c cs ih =>
    have hc : c ≠ '<' := by
      rintro rfl
      exact absurd (hcs _ List.mem_cons_self) (by decide)
    have hnext : (state.step c).1.OutsideTags := by
      rw [h.step, if_neg hc]
      exact .inr rfl
    exact ih hnext fun d hd => hcs d (List.mem_cons_of_mem _ hd)

/-- Blanks do not end a value. -/
theorem mode_after_blanks {state : State} (h : state.mode = .attributeValue) {cs : List Char}
    (hcs : ∀ c ∈ cs, Text.isBlank c = true) : (state.after cs).mode = .attributeValue := by
  induction cs generalizing state with
  | nil => exact h
  | cons c cs ih =>
    have hc : c ≠ '"' := by
      rintro rfl
      exact absurd (hcs _ List.mem_cons_self) (by decide)
    have hnext : (state.step c).1.mode = .attributeValue := by
      obtain ⟨mode, buffer⟩ := state
      obtain rfl : mode = .attributeValue := h
      rw [step_attributeValue, if_neg hc]
    exact ih hnext fun d hd => hcs d (List.mem_cons_of_mem _ hd)

end State

theorem Whole.trimChars {cs : List Char} (h : Whole cs) : Whole (Text.trimChars cs) := by
  obtain ⟨before, behind, hcs, hbefore, hbehind⟩ := Text.exists_blanks cs
  obtain ⟨hheeded, hmode⟩ := h
  rw [hcs, heeded_append_eq_self, heeded_append_eq_self] at hheeded
  rw [hcs, State.after_append, State.after_append] at hmode
  have houtside : (State.initial.after before).OutsideTags := .after_blanks (.inl rfl) hbefore
  have halike : State.initial.Alike (State.initial.after before) := .inr ⟨.inl rfl, houtside⟩
  refine ⟨(halike.heeded _).trans hheeded.1.2, fun hvalue => ?_⟩
  -- a value that is open at the end of the trimmed text is open behind its blanks, too
  rcases halike.after (Text.trimChars cs) with heq | ⟨hstart | hcontent, -⟩
  · rw [heq] at hvalue
    exact hmode (State.mode_after_blanks hvalue hbehind)
  · rw [hvalue] at hstart
    cases hstart
  · rw [hvalue] at hcontent
    cases hcontent

end Lexer

open Lexer

/-- A text as the lexer takes it: without what it passes over, and with its last value closed. -/
def canonical (text : String) : String :=
  String.ofList (heeded .initial text.toList ++ (State.initial.after text.toList).closing)

theorem toText_eq_trim_canonical (text : String) :
    toText (tokenize text) = Text.trim (canonical text) := by
  unfold toText writeWith canonical tokenize
  rw [← writeFrom_tokens_initial, String.ofList_toList]

theorem whole_canonical (text : String) : Whole (canonical text).toList := by
  unfold canonical
  rw [String.toList_ofList]
  obtain ⟨hheeded, hafter⟩ := heeded_heeded .initial text.toList
  constructor
  · rw [heeded_append_eq_self, hafter]
    exact ⟨hheeded, State.heeded_closing _⟩
  · rw [State.after_append, hafter]
    exact State.mode_after_closing _

theorem Lexer.Whole.canonical_eq {text : String} (h : Whole text.toList) :
    canonical text = text := by
  unfold canonical State.closing
  rw [h.heeded, if_neg h.mode, List.append_nil, String.ofList_toList]

/-- What is written for a text that has been read is the text itself, trimmed, but for what the
lexer passes over and a value that is never closed. Reading and writing it again changes nothing. -/
theorem toText_tokenize :
    (∀ text, toText (tokenize text) = Text.trim (canonical text)) ∧
      (∀ text : String,
        (∀ (n : Nat) (hn : n < text.toList.length),
          (State.initial.after (text.toList.take n)).passesOver text.toList[n] = false) →
        (State.initial.after text.toList).mode ≠ .attributeValue →
        toText (tokenize text) = Text.trim text) ∧
      ∀ text, toText (tokenize (toText (tokenize text))) = toText (tokenize text) := by
  refine ⟨toText_eq_trim_canonical, fun text hheeded hmode => ?_, fun text => ?_⟩
  · have hwhole : Whole text.toList := ⟨heeded_eq_self hheeded, hmode⟩
    rw [toText_eq_trim_canonical, hwhole.canonical_eq]
  · have hwhole : Whole (Text.trim (canonical text)).toList := by
      rw [Text.trim, String.toList_ofList]
      exact (whole_canonical text).trimChars
    rw [toText_eq_trim_canonical text, toText_eq_trim_canonical, hwhole.canonical_eq, Text.trim_trim]

/-- A text with stray brackets and a tag that is never closed. -/
def strayBrackets : String :=
  " <a b =\"c>\">< 1<p></><img "

theorem toText_tokenize_strayBrackets :
    toText (tokenize strayBrackets) = "<a b =\"c>\">< 1<p></><img" := by
  have hheeded : ∀ (n : Nat) (hn : n < strayBrackets.toList.length),
      (State.initial.after (strayBrackets.toList.take n)).passesOver
        strayBrackets.toList[n] = false := by
    decide +kernel
  have hmode : (State.initial.after strayBrackets.toList).mode ≠ .attributeValue := by
    decide +kernel
  rw [toText_tokenize.2.1 strayBrackets hheeded hmode]
  decide +kernel

end MailTemplate.Markup
