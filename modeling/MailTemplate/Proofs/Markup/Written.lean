import MailTemplate.Markup.Writer
import MailTemplate.Proofs.Markup.Reading

/-! # Writing what was read

The lexer drops the punctuation of tags and values, and a writer finds it again from the kinds of
neighboring tokens. The tokens of a rest of a text are written as the open part and what is read of
that rest, whatever was recorded before (`writes_tokens`). -/

namespace MailTemplate.Markup

namespace Lexer

namespace State

/-- Between an `=` and the quote of its value all is passed over but the end of the tag. -/
def passesOver (state : State) (c : Char) : Bool :=
  state.mode == .attributeEquals && c != '"' && c != '>'

/-- What closes the part that is open at the end of a text. -/
def closing (state : State) : List Char :=
  if state.mode = .attributeValue then ['"'] else []

end State

/-- The characters of a text that are not passed over. -/
def heeded (state : State) : List Char → List Char
  | [] => []
  | c :: cs => (if state.passesOver c then [] else [c]) ++ heeded (state.step c).1 cs

/-- The punctuation in front of a part, behind a token of kind `before`. -/
def opening (before : Option Kind) : Mode → String
  | .tagOpen => "<"
  | .tagClose => "</"
  | .attributeValue => "\""
  | .content => if before.any Kind.isAttribute then ">" else ""
  | _ => ""

/-- What is written for a list of tokens is the open part of `state` and then `text`, behind tokens
of any kind. -/
structure Writes (state : State) (tokens : List Token) (text : List Char) : Prop where
  /-- Content at the head is what closes the tag before it. -/
  head : tokens.head?.map Token.kind = some .content ↔ state.mode = .content
  written : ∀ before, (writeFrom Token.text before tokens).toList =
    (opening before state.mode).toList ++ state.buffer.toList ++ text

theorem Writes.finish {state : State} (h : state.mode ≠ .start) :
    Writes state state.token?.toList state.closing := by
  obtain ⟨mode, buffer⟩ := state
  constructor
  · cases mode <;> simp_all [State.token?, Mode.kind?]
  · intro before
    cases mode <;>
      simp_all [State.token?, Mode.kind?, writeFrom, punctuation, opening, State.closing]

/-- The punctuation between the text of a token and the part behind it. -/
def between (kind : Kind) (mode : Mode) : String :=
  (punctuation none (if mode = .content then some .content else none) kind).2 ++
    opening (some kind) mode

theorem writeFrom_cons {state : State} {tokens : List Token} {text : List Char}
    (h : Writes state tokens text) (before : Option Kind) (token : Token) :
    (writeFrom Token.text before (token :: tokens)).toList =
      (punctuation before none token.kind).1.toList ++ token.text.toList ++
        (between token.kind state.mode).toList ++ state.buffer.toList ++ text := by
  obtain ⟨kind, buffer⟩ := token
  rw [writeFrom]
  by_cases hmode : state.mode = .content
  · have hhead := h.head.mpr hmode
    cases kind <;> simp [punctuation, between, h.written, hmode, hhead]
  · have hhead := mt h.head.mp hmode
    cases kind <;> simp [punctuation, between, h.written, hmode, hhead]

theorem Writes.keep {mode : Mode} {buffer : String} {c : Char} {tokens : List Token}
    {text : List Char} (h : Writes ⟨mode, buffer.push c⟩ tokens text) :
    Writes ⟨mode, buffer⟩ tokens ([c] ++ text) := by
  refine ⟨h.head, fun before => ?_⟩
  rw [h.written]
  simp

theorem Writes.enter {mode : Mode} {buffer : String} {next : State} {kind : Kind}
    {tokens : List Token} {text read : List Char} (h : Writes next tokens text)
    (hkind : mode.kind? = some kind)
    (hread : (between kind next.mode).toList ++ next.buffer.toList = read) :
    Writes ⟨mode, buffer⟩ (⟨kind, buffer⟩ :: tokens) (read ++ text) := by
  constructor
  · cases mode <;> cases hkind <;> simp
  · intro before
    rw [writeFrom_cons h, ← hread]
    cases mode <;> cases hkind <;> simp [opening, punctuation]

/-- A character that ends a part comes back as punctuation or in the text of a token; one that does
not is put behind the open part. -/
theorem Writes.heed {state : State} (h : state.mode ≠ .start) {c : Char}
    (hc : state.passesOver c = false) {rest : List Token} {text : List Char}
    (hrest : Writes (state.step c).1 rest text) :
    Writes state ((state.step c).2.toList ++ rest) ([c] ++ text) := by
  obtain ⟨mode, buffer⟩ := state
  cases mode with
  | start => exact absurd rfl h
  | content =>
    rw [State.step_content] at hrest ⊢
    split_ifs at hrest ⊢ with hopen
    · exact hrest.enter rfl (by simp [between, punctuation, opening, hopen])
    · exact hrest.keep
  | tagOpen =>
    rw [State.step_tagOpen] at hrest ⊢
    split_ifs at hrest ⊢ with hslash hblank hend
    · -- the slash is written with the bracket before it
      refine ⟨by simp [hrest.head], fun before => ?_⟩
      simp [hrest.written, opening, hslash]
    · exact (hrest.enter rfl rfl).keep
    · exact hrest.enter rfl (by simp [between, punctuation, opening, Kind.isAttribute, hend])
    · exact hrest.keep
  | tagClose =>
    rw [State.step_tagClose] at hrest ⊢
    split_ifs at hrest ⊢ with hblank hend
    · exact (hrest.enter rfl rfl).keep
    · exact hrest.enter rfl (by simp [between, punctuation, opening, Kind.isAttribute, hend])
    · exact hrest.keep
  | tagContinuation =>
    rw [State.step_tagContinuation] at hrest ⊢
    split_ifs at hrest ⊢ with hblank hend
    · exact (hrest.enter rfl rfl).keep
    · exact hrest.enter rfl (by simp [between, punctuation, opening, Kind.isAttribute, hend])
    · exact hrest.enter rfl (by simp [between, punctuation, opening])
  | attributeName =>
    rw [State.step_attributeName] at hrest ⊢
    split_ifs at hrest ⊢ with hsign hblank hend
    · exact hrest.enter rfl (by simp [between, punctuation, opening, hsign])
    · exact hrest.enter rfl (by simp [between, punctuation, opening])
    · exact hrest.enter rfl (by simp [between, punctuation, opening, Kind.isAttribute, hend])
    · exact hrest.keep
  | attributeEquals =>
    rw [State.step_attributeEquals] at hrest ⊢
    split_ifs at hrest ⊢ with hquote hend
    · exact hrest.enter rfl (by simp [between, punctuation, opening, hquote])
    · exact hrest.enter rfl (by simp [between, punctuation, opening, Kind.isAttribute, hend])
    · simp [State.passesOver, hquote, hend] at hc
  | attributeValue =>
    rw [State.step_attributeValue] at hrest ⊢
    split_ifs at hrest ⊢ with hquote
    · exact hrest.enter rfl (by simp [between, punctuation, opening, hquote])
    · exact hrest.keep

theorem step_of_passesOver {state : State} {c : Char} (h : state.passesOver c = true) :
    state.step c = (state, none) := by
  obtain ⟨mode, buffer⟩ := state
  simp only [State.passesOver, Bool.and_eq_true, beq_iff_eq, bne_iff_ne] at h
  obtain ⟨⟨rfl, hquote⟩, hend⟩ := h
  rw [State.step_attributeEquals, if_neg hquote, if_neg hend]

theorem writes_tokens {state : State} (h : state.mode ≠ .start) (cs : List Char) :
    Writes state (tokens state cs) (heeded state cs ++ (state.after cs).closing) := by
  induction cs generalizing state with
  | nil => exact .finish h
  | cons c cs ih =>
    have hrest := ih (state.mode_step_ne_start c)
    rw [tokens_cons, heeded, State.after_cons, List.append_assoc]
    by_cases hc : state.passesOver c = true
    · rw [if_pos hc]
      rw [step_of_passesOver hc] at hrest ⊢
      exact hrest
    · rw [if_neg hc]
      exact hrest.heed h (by simpa using hc)

theorem writeFrom_tokens_initial (cs : List Char) :
    (writeFrom Token.text none (tokens .initial cs)).toList =
      heeded .initial cs ++ (State.initial.after cs).closing := by
  cases cs with
  | nil => rfl
  | cons c cs =>
    have hrest := (writes_tokens (State.initial.mode_step_ne_start c) cs).written none
    have hc : State.initial.passesOver c = false := rfl
    rw [tokens_cons, heeded, hc, if_neg Bool.false_ne_true, State.after_cons, List.append_assoc]
    unfold State.initial at hrest ⊢
    rw [State.step_start] at hrest ⊢
    split_ifs at hrest ⊢ with hopen
    · simpa [opening, hopen] using hrest
    · simpa [opening] using hrest

end Lexer

end MailTemplate.Markup
