import MailTemplate.Proofs.Markup.Substitution
import MailTemplate.Proofs.Markup.TokenText

/-! # The streams of the lexer

What the lexer makes of a text follows a grammar of neighbors: how each token is spelled, what can
stand directly behind it, and how a run of blanks between the parts of a tag is cut into tokens
(`lexed_tokenize`). A legible stream need not follow it. Two contents side by side, or all blanks of
a run in one token, can be read back, but not as the same tokens. -/

namespace MailTemplate.Markup

open Lexer

/-! ## Lexed streams -/

/-- The texts of blanks that are read one by one. What ends them is recorded behind an empty
text. -/
inductive SingleBlanks : List String → Prop
  | last : SingleBlanks [""]
  | cons {text : String} {texts : List String} (length_eq : text.length = 1)
      (rest : SingleBlanks texts) : SingleBlanks (text :: texts)

/-- The texts of a whole run of blanks. The name of an attribute is ended by the first blank behind
it, which is recorded together with the second one if there are two. Behind a blank the run has
begun before. -/
def IsRunBehind (kind : Kind) (texts : List String) : Prop :=
  match kind with
  | .tagOpen | .tagClose | .attributeValue => SingleBlanks texts
  | .attributeName => ∃ first rest, texts = first :: rest ∧
      (first.length = 1 ∧ rest = [] ∨ first.length = 2 ∧ SingleBlanks rest)
  | .tagContinuation => True
  | .attributeEquals | .content => False

def blanksAt (tokens : List Token) : List String :=
  (tokens.takeWhile (·.kind == .tagContinuation)).map Token.text

namespace Token

def Spelled (token : Token) : Prop :=
  match token.kind with
  | .tagOpen => token.text.toList.head? ≠ some '/' ∧ IsTagName token.text.toList
  | .tagClose => IsTagName token.text.toList
  | .content => '<' ∉ token.text.toList
  | .tagContinuation => ∀ c ∈ token.text.toList, Text.isTagBlank c = true
  | .attributeName => IsAttributeName token.text.toList
  | .attributeEquals => token.text = "="
  | .attributeValue => '"' ∉ token.text.toList

def endsInBlank (token : Token) : Bool :=
  token.text.toList.getLast?.any Text.isTagBlank

/-- What can stand directly behind a token; `none` is the end of the stream. -/
def Precedes (token : Token) : Option Token → Prop
  | none => token.isTag = true → token.endsInBlank = false
  | some next =>
    match token.kind with
    | .content => next.isTag = true
    | .tagOpen | .tagClose =>
      next.kind = if token.endsInBlank then .tagContinuation else .content
    | .tagContinuation =>
      next.kind = .tagContinuation ∨ next.kind = .attributeName ∨ next.kind = .content
    | .attributeName =>
      next.kind = .attributeEquals ∨ next.kind = .tagContinuation ∧ next.text ≠ "" ∨
        next.kind = .content
    | .attributeEquals => next.kind = .attributeValue ∨ next.kind = .content
    | .attributeValue => next.kind = .tagContinuation

/-- What the rest of a stream is behind a token. -/
structure Fits (token : Token) (behind : List Token) : Prop where
  next : token.Precedes behind.head?
  blanks : blanksAt behind ≠ [] → IsRunBehind token.kind (blanksAt behind)

end Token

/-- A stream, perhaps in the middle of a document, in which each token is spelled as its kind is and
fits what is behind it. -/
def Lexed : List Token → Prop
  | [] => True
  | token :: tokens => token.Spelled ∧ token.Fits tokens ∧ Lexed tokens

/-- A document starts with a tag or with content, which is not empty there. -/
def Begins (tokens : List Token) : Prop :=
  ∀ token, tokens.head? = some token →
    token.isTag = true ∨ token.kind = .content ∧ token.text ≠ ""

/-! ## What the lexer makes is lexed -/

theorem Token.LegibleIn.spelled {mode : Mode} {token : Token} (h : token.LegibleIn mode) :
    token.Spelled := by
  obtain ⟨kind, text⟩ := token
  cases kind with
  | content => exact h
  | tagOpen | tagClose | tagContinuation | attributeName | attributeEquals | attributeValue =>
    exact h.2

theorem Legible.forall_spelled {mode : Lexer.Mode} {tokens : List Token} (h : Legible mode tokens) :
    ∀ token ∈ tokens, token.Spelled := by
  induction tokens generalizing mode with
  | nil => exact nofun
  | cons token tokens ih => exact List.forall_mem_cons.mpr ⟨h.1.spelled, ih h.2⟩

theorem blanksAt_cons (text : String) (tokens : List Token) :
    blanksAt (⟨.tagContinuation, text⟩ :: tokens) = text :: blanksAt tokens := rfl

theorem blanksAt_eq_nil {token : Token} (h : token.kind ≠ .tagContinuation) (tokens : List Token) :
    blanksAt (token :: tokens) = [] := by
  rw [blanksAt, List.takeWhile_cons_of_neg (by simpa using h), List.map_nil]

namespace Lexer

/-- The first token that is recorded is the open part; a tag that has been opened can turn out to be
a closing one. -/
theorem exists_tokens_eq_cons {mode : Mode} {kind : Kind} (hkind : mode.kind? = some kind)
    (buffer : String) (cs : List Char) :
    ∃ token rest, tokens ⟨mode, buffer⟩ cs = token :: rest ∧
      (token.kind = kind ∨ kind = .tagOpen ∧ token.kind = .tagClose) := by
  induction cs generalizing mode kind buffer with
  | nil => exact ⟨⟨kind, buffer⟩, [], by simp [tokens_nil, State.token?, hkind], .inl rfl⟩
  | cons c cs ih =>
    rw [tokens_cons]
    cases hstep : (State.step ⟨mode, buffer⟩ c).2 with
    | some token =>
      have htoken := State.kind_of_step hstep
      exact ⟨token, _, rfl, .inl (Option.some.inj (htoken.symm.trans hkind))⟩
    | none =>
      rcases State.mode_of_step hstep with hmode | ⟨hstart, -⟩ | ⟨hopen, hclose⟩
      · have hnext : (State.step ⟨mode, buffer⟩ c).1.mode.kind? = some kind := hmode ▸ hkind
        exact ih hnext _
      · obtain rfl : mode = .start := hstart
        cases hkind
      · obtain rfl : mode = .tagOpen := hopen
        obtain rfl : .tagOpen = kind := Option.some.inj hkind
        have hnext : (State.step ⟨.tagOpen, buffer⟩ c).1.mode.kind? = some .tagClose := by
          rw [hclose]
          rfl
        obtain ⟨token, rest, htokens, hclosing⟩ := ih hnext _
        exact ⟨token, rest, htokens, .inr ⟨rfl, by simpa using hclosing⟩⟩

/-- Blanks behind a part of a tag: the first one is a part of the text that has been read, or there
is none. -/
theorem tokens_tagContinuation (buffer : String) (cs : List Char) :
    (∃ c ds, cs = c :: ds ∧ tokens ⟨.tagContinuation, buffer⟩ cs =
        ⟨.tagContinuation, buffer.push c⟩ :: tokens ⟨.tagContinuation, ""⟩ ds) ∨
      ∃ rest, tokens ⟨.tagContinuation, buffer⟩ cs = ⟨.tagContinuation, buffer⟩ :: rest ∧
        blanksAt rest = [] := by
  cases cs with
  | nil => exact .inr ⟨[], rfl, rfl⟩
  | cons c cs =>
    rw [tokens_cons, State.step_tagContinuation]
    split_ifs with hblank hend
    · exact .inl ⟨c, cs, rfl, rfl⟩
    · obtain ⟨token, rest, htokens, hkind⟩ :=
        exists_tokens_eq_cons (show Mode.content.kind? = some .content from rfl) "" cs
      refine .inr ⟨_, rfl, ?_⟩
      rw [htokens]
      exact blanksAt_eq_nil (by rcases hkind with h | h <;> simp_all) rest
    · obtain ⟨token, rest, htokens, hkind⟩ :=
        exists_tokens_eq_cons (show Mode.attributeName.kind? = some .attributeName from rfl)
          (String.singleton c) cs
      refine .inr ⟨_, rfl, ?_⟩
      rw [htokens]
      exact blanksAt_eq_nil (by rcases hkind with h | h <;> simp_all) rest

theorem singleBlanks_tokens (cs : List Char) :
    SingleBlanks (blanksAt (tokens ⟨.tagContinuation, ""⟩ cs)) := by
  induction cs with
  | nil => exact .last
  | cons c cs ih =>
    rcases tokens_tagContinuation "" (c :: cs) with ⟨_, _, ⟨⟩, htokens⟩ | ⟨rest, htokens, hrest⟩
    · rw [htokens, blanksAt_cons]
      exact .cons (by simp) ih
    · rw [htokens, blanksAt_cons, hrest]
      exact .last

theorem isRunBehind_tokens (c : Char) (cs : List Char) :
    IsRunBehind .attributeName (blanksAt (tokens ⟨.tagContinuation, String.singleton c⟩ cs)) := by
  rcases tokens_tagContinuation (String.singleton c) cs with
    ⟨d, ds, -, htokens⟩ | ⟨rest, htokens, hrest⟩
  · rw [htokens, blanksAt_cons]
    exact ⟨_, _, rfl, .inr ⟨by simp, singleBlanks_tokens ds⟩⟩
  · rw [htokens, blanksAt_cons, hrest]
    exact ⟨_, _, rfl, .inl ⟨by simp, rfl⟩⟩

theorem fits_tokens {token : Token} {mode : Mode} {kind : Kind} (hkind : mode.kind? = some kind)
    (hblank : kind ≠ .tagContinuation) (h : ∀ next : Token,
      next.kind = kind ∨ kind = .tagOpen ∧ next.kind = .tagClose → token.Precedes (some next))
    (buffer : String) (cs : List Char) : token.Fits (tokens ⟨mode, buffer⟩ cs) := by
  obtain ⟨next, rest, htokens, hnext⟩ := exists_tokens_eq_cons hkind buffer cs
  have hne : next.kind ≠ .tagContinuation := by
    rcases hnext with hnext | ⟨-, hnext⟩
    · exact hnext ▸ hblank
    · simp [hnext]
  rw [htokens]
  exact ⟨h next hnext, fun hblanks => absurd (blanksAt_eq_nil hne rest) hblanks⟩

/-- What blanks can stand behind that are read one by one. -/
theorem fits_blanks {token : Token}
    (hrun : ∀ texts, SingleBlanks texts → IsRunBehind token.kind texts)
    (h : ∀ next : Token, next.kind = .tagContinuation → token.Precedes (some next))
    (cs : List Char) : token.Fits (tokens ⟨.tagContinuation, ""⟩ cs) := by
  obtain ⟨next, rest, htokens, hnext⟩ :=
    exists_tokens_eq_cons (show Mode.tagContinuation.kind? = some .tagContinuation from rfl) "" cs
  refine ⟨?_, fun _ => hrun _ (singleBlanks_tokens cs)⟩
  rw [htokens]
  exact h next (hnext.resolve_right nofun)

/-- The blank that ends a name is in the text of the token behind it. -/
theorem fits_ending_blank (name : String) (c : Char) (cs : List Char) :
    (⟨.attributeName, name⟩ : Token).Fits (tokens ⟨.tagContinuation, String.singleton c⟩ cs) := by
  have hrun := isRunBehind_tokens c cs
  refine ⟨?_, fun _ => hrun⟩
  obtain ⟨⟨kind, text⟩, rest, htokens, hkind⟩ :=
    exists_tokens_eq_cons (show Mode.tagContinuation.kind? = some .tagContinuation from rfl)
      (String.singleton c) cs
  obtain rfl : kind = .tagContinuation := hkind.resolve_right nofun
  rw [htokens] at hrun ⊢
  obtain ⟨first, texts, hfirst, hlength⟩ := hrun
  obtain rfl : text = first := (List.cons.inj hfirst).1
  refine .inr (.inl ⟨rfl, ?_⟩)
  rintro rfl
  simp at hlength

/-- No blank ends the tag name that is being read. -/
def State.Unended (state : State) : Prop :=
  state.mode = .tagOpen ∨ state.mode = .tagClose →
    state.buffer.toList.getLast?.any Text.isTagBlank = false

theorem State.unended_step (state : State) (c : Char) : (state.step c).1.Unended := by
  obtain ⟨mode, buffer⟩ := state
  cases mode <;> simp only [step, stepTagName, enter, keep, Unended] <;> split_ifs <;> simp_all

/-- The token that a character ends fits what is read from there on. -/
theorem fits_of_step {state next : State} (h : state.Unended) {c : Char} {token : Token}
    (hstep : state.step c = (next, some token)) (cs : List Char) :
    token.Fits (tokens next cs) := by
  obtain ⟨mode, buffer⟩ := state
  cases mode with
  | start =>
    rw [State.step_start] at hstep
    split_ifs at hstep <;> cases hstep
  | content =>
    rw [State.step_content] at hstep
    split_ifs at hstep <;> cases hstep
    refine fits_tokens rfl (by simp) (fun next hnext => ?_) "" cs
    show next.kind.isTag = true
    obtain hnext | ⟨-, hnext⟩ := hnext <;> rw [hnext] <;> rfl
  | tagOpen =>
    rw [State.step_tagOpen] at hstep
    split_ifs at hstep with hslash hblank hend <;> cases hstep
    · refine fits_blanks ?_ (fun next hnext => ?_) cs
      · exact fun _ hrun => hrun
      · simp [Token.Precedes, Token.endsInBlank, hblank, hnext]
    · refine fits_tokens rfl (by simp) (fun next hnext => ?_) "" cs
      simpa [Token.Precedes, Token.endsInBlank, h (.inl rfl)] using hnext
  | tagClose =>
    rw [State.step_tagClose] at hstep
    split_ifs at hstep with hblank hend <;> cases hstep
    · refine fits_blanks ?_ (fun next hnext => ?_) cs
      · exact fun _ hrun => hrun
      · simp [Token.Precedes, Token.endsInBlank, hblank, hnext]
    · refine fits_tokens rfl (by simp) (fun next hnext => ?_) "" cs
      simpa [Token.Precedes, Token.endsInBlank, h (.inr rfl)] using hnext
  | tagContinuation =>
    rw [State.step_tagContinuation] at hstep
    split_ifs at hstep with hblank hend <;> cases hstep
    · refine fits_blanks ?_ ?_ cs
      · exact fun _ _ => trivial
      · exact fun _ hnext => .inl hnext
    · exact fits_tokens rfl (by simp) (fun next hnext => by simp_all [Token.Precedes]) "" cs
    · exact fits_tokens rfl (by simp) (fun next hnext => by simp_all [Token.Precedes]) _ cs
  | attributeName =>
    rw [State.step_attributeName] at hstep
    split_ifs at hstep with hsign hblank hend <;> cases hstep
    · exact fits_tokens rfl (by simp) (fun next hnext => by simp_all [Token.Precedes]) _ cs
    · exact fits_ending_blank buffer c cs
    · exact fits_tokens rfl (by simp) (fun next hnext => by simp_all [Token.Precedes]) "" cs
  | attributeEquals =>
    rw [State.step_attributeEquals] at hstep
    split_ifs at hstep with hquote hend <;> cases hstep
    · exact fits_tokens rfl (by simp) (fun next hnext => by simp_all [Token.Precedes]) "" cs
    · exact fits_tokens rfl (by simp) (fun next hnext => by simp_all [Token.Precedes]) "" cs
  | attributeValue =>
    rw [State.step_attributeValue] at hstep
    split_ifs at hstep with hquote <;> cases hstep
    refine fits_blanks ?_ ?_ cs
    · exact fun _ hrun => hrun
    · exact fun _ hnext => hnext

/-- Nothing fits the end of a document less than content does, but a tag name that a blank ended. -/
theorem fits_nil {state : State} (h : state.Unended) {token : Token}
    (htoken : state.token? = some token) : token.Fits [] := by
  obtain ⟨mode, buffer⟩ := state
  obtain ⟨kind, hkind, rfl⟩ := Option.map_eq_some_iff.mp htoken
  refine ⟨fun htag => h ?_, fun hblanks => absurd rfl hblanks⟩
  cases mode <;> cases hkind <;> cases htag
  · exact .inl rfl
  · exact .inr rfl

/-- Along a text, how tokens are spelled is known of legible streams, and what is behind a token is
settled when it is ended. -/
theorem lexed_tokens {state : State} (h : state.Unended) {before : Mode} {cs : List Char}
    (hlegible : Legible before (tokens state cs)) : Lexed (tokens state cs) := by
  induction cs generalizing state before with
  | nil =>
    rw [tokens_nil] at hlegible ⊢
    cases htoken : state.token? with
    | none => trivial
    | some token =>
      rw [htoken] at hlegible
      exact ⟨hlegible.1.spelled, fits_nil h htoken, trivial⟩
  | cons c cs ih =>
    have hnext := state.unended_step c
    rw [tokens_cons] at hlegible ⊢
    cases hstep : (state.step c).2 with
    | none =>
      rw [hstep] at hlegible
      exact ih hnext hlegible
    | some token =>
      rw [hstep] at hlegible
      obtain ⟨htoken, hrest⟩ := hlegible
      exact ⟨htoken.spelled, fits_of_step h (Prod.ext rfl hstep) cs, ih hnext hrest⟩

end Lexer

theorem lexed_tokenize (text : String) : Lexed (tokenize text) :=
  lexed_tokens (fun h => by rcases h with h | h <;> cases h) (legible_tokenize text)

theorem begins_tokenize (text : String) : Begins (tokenize text) := by
  unfold tokenize
  cases text.toList with
  | nil => exact nofun
  | cons c cs =>
    rw [tokens_cons, State.initial, State.step_start]
    split_ifs with hopen
    · obtain ⟨token, rest, htokens, hkind⟩ :=
        exists_tokens_eq_cons (show Mode.tagOpen.kind? = some .tagOpen from rfl) "" cs
      intro first hfirst
      obtain rfl : token = first := by simpa [htokens] using hfirst
      left
      show token.kind.isTag = true
      obtain hkind | ⟨-, hkind⟩ := hkind <;> rw [hkind] <;> rfl
    · obtain ⟨word, rest, -, htokens⟩ := Mode.content_endsAt.exists_tokens cs
      intro first hfirst
      obtain rfl : ⟨.content, "".push c ++ word⟩ = first := by simpa [htokens] using hfirst
      refine .inr ⟨rfl, fun hempty => ?_⟩
      simpa using congrArg String.toList hempty

end MailTemplate.Markup
