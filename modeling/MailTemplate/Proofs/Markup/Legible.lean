import MailTemplate.Markup.Span
import MailTemplate.Proofs.Markup.Grouped

/-! # Streams that can be read back

The text of a token does not say where the token ends. Whether its text, written behind that of
another token, is read as a token of its own depends on the mode that the lexer is in behind the
other one. In a legible stream it is, for every token. What the lexer makes of a text is legible
(`legible_tokenize`). -/

namespace MailTemplate.Markup

/-- The characters of a name. -/
def isNameChar (c : Char) : Bool :=
  !Text.isTagBlank c && c != '>'

theorem isNameChar_iff {c : Char} :
    isNameChar c = true ↔ ¬ Text.isTagBlank c = true ∧ ¬ c = '>' := by
  simp [isNameChar]

/-- A word, and perhaps the blank that ended it. -/
def IsTagName (text : List Char) : Prop :=
  (∀ c ∈ text, isNameChar c = true) ∨
    ∃ word blank, text = word ++ [blank] ∧ (∀ c ∈ word, isNameChar c = true) ∧
      Text.isTagBlank blank = true

theorem isTagBlank_last_of_word {word : List Char} (h : ∀ c ∈ word, isNameChar c = true) :
    word.getLast?.any Text.isTagBlank = false := by
  cases hlast : word.getLast? with
  | none => rfl
  | some c => simpa using (isNameChar_iff.mp (h c (List.mem_of_getLast? hlast))).1

/-- A tag name that no blank ends is a word. -/
theorem isNameChar_of_isTagName {text : List Char} (h : IsTagName text)
    (hlast : text.getLast?.any Text.isTagBlank = false) : ∀ c ∈ text, isNameChar c = true := by
  rcases h with hword | ⟨word, blank, rfl, -, hblank⟩
  · exact hword
  · simp [hblank] at hlast

/-- A word in which no `=` stands behind its first character. -/
def IsAttributeName (text : List Char) : Prop :=
  ∃ first rest, text = first :: rest ∧ isNameChar first = true ∧
    ∀ c ∈ rest, isNameChar c = true ∧ c ≠ '='

namespace Lexer.Mode

/-- No tag has been opened yet, or the last one was closed. -/
def Outside (mode : Mode) : Prop :=
  mode = .start ∨ mode = .content

end Lexer.Mode

open Lexer

namespace Token

/-- The mode of a lexer that has read the text of a token. -/
def modeBehind (token : Token) : Mode :=
  match token.kind with
  | .tagOpen =>
    if token.text.toList.getLast?.any Text.isTagBlank then .tagContinuation else .tagOpen
  | .tagClose =>
    if token.text.toList.getLast?.any Text.isTagBlank then .tagContinuation else .tagClose
  | .content => .content
  | .tagContinuation | .attributeValue => .tagContinuation
  | .attributeName => .attributeName
  | .attributeEquals => .attributeEquals

/-- The text of the token is read as this token by a lexer in a mode. Content closes any tag before
it, so it can stand everywhere. -/
def LegibleIn (mode : Mode) (token : Token) : Prop :=
  match token.kind with
  | .tagOpen =>
    mode.Outside ∧ token.text.toList.head? ≠ some '/' ∧ IsTagName token.text.toList
  | .tagClose => mode.Outside ∧ IsTagName token.text.toList
  | .content => '<' ∉ token.text.toList
  | .tagContinuation =>
    (mode = .tagContinuation ∨ mode = .attributeName ∧ token.text ≠ "") ∧
      ∀ c ∈ token.text.toList, Text.isTagBlank c = true
  | .attributeName => mode = .tagContinuation ∧ IsAttributeName token.text.toList
  | .attributeEquals => mode = .attributeName ∧ token.text = "="
  | .attributeValue => mode = .attributeEquals ∧ '"' ∉ token.text.toList

end Token

/-- Every token of a stream is legible behind the one before it, the first one in `mode`. -/
def Legible (mode : Mode) : List Token → Prop
  | [] => True
  | token :: tokens => token.LegibleIn mode ∧ Legible token.modeBehind tokens

/-! ## Tokens in other places -/

theorem not_outside_of_inTag {token : Token} (h : token.kind ≠ .content) :
    ¬ token.modeBehind.Outside := by
  obtain ⟨kind, text⟩ := token
  cases kind <;> simp only [Token.modeBehind] <;> (try split) <;> simp_all [Mode.Outside]

theorem Token.LegibleIn.isAttribute_eq_false {mode : Mode} {token : Token}
    (h : token.LegibleIn mode) (hmode : mode.Outside) : token.isAttribute = false := by
  obtain ⟨kind, text⟩ := token
  cases kind with
  | tagOpen | tagClose | content => rfl
  | tagContinuation =>
    rcases hmode with rfl | rfl <;> rcases h.1 with h | h
    · cases h
    · cases h.1
    · cases h
    · cases h.1
  | attributeName | attributeEquals | attributeValue =>
    rcases hmode with rfl | rfl <;> cases h.1

/-- Tags and content can stand behind every closed tag. -/
theorem Token.LegibleIn.outside {mode other : Mode} {token : Token} (h : token.LegibleIn mode)
    (htoken : token.isAttribute = false) (hother : other.Outside) : token.LegibleIn other := by
  obtain ⟨kind, text⟩ := token
  cases kind with
  | tagOpen => exact ⟨hother, h.2⟩
  | tagClose => exact ⟨hother, h.2⟩
  | content => exact h
  | tagContinuation | attributeName | attributeEquals | attributeValue => cases htoken

/-- In a tag only content can stand that is not a part of it, and content can stand everywhere. -/
theorem Token.LegibleIn.everywhere {mode : Mode} {token : Token} (h : token.LegibleIn mode)
    (htoken : token.isAttribute = false) (hmode : ¬ mode.Outside) (other : Mode) :
    token.LegibleIn other := by
  obtain ⟨kind, text⟩ := token
  cases kind with
  | tagOpen => exact absurd h.1 hmode
  | tagClose => exact absurd h.1 hmode
  | content => exact h
  | tagContinuation | attributeName | attributeEquals | attributeValue => cases htoken

namespace Legible

variable {mode : Mode} {tokens : List Token}

/-- The first token can stand behind content. -/
theorem of_start (h : Legible .start tokens) : Legible .content tokens := by
  cases tokens with
  | nil => trivial
  | cons token tokens =>
    have htoken := h.1.isAttribute_eq_false (.inl rfl)
    exact ⟨h.1.outside htoken (.inr rfl), h.2⟩

theorem append (h : Legible mode tokens) {rest : List Token}
    (hrest : ∀ other, Legible other rest) : Legible mode (tokens ++ rest) := by
  induction tokens generalizing mode with
  | nil => exact hrest mode
  | cons token tokens ih => exact ⟨h.1, ih h.2⟩

/-- What is behind the attribute tokens of a tag does not depend on them. -/
theorem in_tag (h : Legible mode tokens) (hmode : ¬ mode.Outside) :
    Legible mode (attributesOf tokens) ∧
      ∀ other, Legible other (tokens.dropWhile Token.isAttribute) := by
  induction tokens generalizing mode with
  | nil => exact ⟨trivial, fun _ => trivial⟩
  | cons token tokens ih =>
    obtain ⟨htoken, htokens⟩ := h
    by_cases hattribute : token.isAttribute = true
    · have hbehind : ¬ token.modeBehind.Outside := not_outside_of_inTag fun hkind => by
        simp [Token.isAttribute, hkind, Kind.isAttribute] at hattribute
      obtain ⟨hfirst, hrest⟩ := ih htokens hbehind
      rw [attributesOf_cons_of_pos hattribute, List.dropWhile_cons_of_pos hattribute]
      exact ⟨⟨htoken, hfirst⟩, hrest⟩
    · rw [attributesOf_cons_of_neg hattribute, List.dropWhile_cons_of_neg hattribute]
      exact ⟨trivial, fun other =>
        ⟨htoken.everywhere (by simpa using hattribute) hmode other, htokens⟩⟩

/-- An `=` is legible behind a name only, and a value behind an `=`. -/
theorem groupedAfter (h : Legible mode tokens) {before : Option Kind}
    (hname : mode = .attributeName → before = some .attributeName)
    (hsign : mode = .attributeEquals → before = some .attributeEquals) :
    GroupedAfter before tokens := by
  induction tokens generalizing mode before with
  | nil => trivial
  | cons token tokens ih =>
    obtain ⟨kind, text⟩ := token
    obtain ⟨htoken, htokens⟩ := h
    refine ⟨?_, ?_, ih htokens ?_ ?_⟩
    · rintro rfl
      exact hname htoken.1
    · rintro rfl
      exact hsign htoken.1
    all_goals
      cases kind <;> simp only [Token.modeBehind] <;> (try split) <;> simp

theorem grouped (h : Legible .start tokens) : Grouped tokens :=
  h.groupedAfter (fun hmode => nomatch hmode) (fun hmode => nomatch hmode)

end Legible

/-! ## What the lexer makes -/

namespace Lexer

/-- What has been read of the open part is legible behind the tokens before it, which leave the
lexer in `before`. The blank that ends a tag name ends the part, too. -/
structure Opens (before : Mode) (state : State) : Prop where
  legible : ∀ token, state.token? = some token → token.LegibleIn before
  word : state.mode = .tagOpen ∨ state.mode = .tagClose →
    ∀ c ∈ state.buffer.toList, isNameChar c = true

section

variable {before : Mode} {buffer : String}

theorem opens_content : Opens before ⟨.content, buffer⟩ ↔ '<' ∉ buffer.toList := by
  constructor
  · exact fun h => h.legible _ rfl
  · intro h
    refine ⟨fun token htoken => ?_, fun hmode => ?_⟩
    · obtain rfl := Option.some.inj htoken
      exact h
    · rcases hmode with hmode | hmode <;> cases hmode

theorem opens_tagOpen : Opens before ⟨.tagOpen, buffer⟩ ↔
    before.Outside ∧ buffer.toList.head? ≠ some '/' ∧ ∀ c ∈ buffer.toList, isNameChar c = true := by
  constructor
  · intro h
    obtain ⟨houtside, hslash, -⟩ := h.legible _ rfl
    exact ⟨houtside, hslash, h.word (.inl rfl)⟩
  · rintro ⟨houtside, hslash, hword⟩
    refine ⟨fun token htoken => ?_, fun _ => hword⟩
    obtain rfl := Option.some.inj htoken
    exact ⟨houtside, hslash, .inl hword⟩

theorem opens_tagClose : Opens before ⟨.tagClose, buffer⟩ ↔
    before.Outside ∧ ∀ c ∈ buffer.toList, isNameChar c = true := by
  constructor
  · intro h
    exact ⟨(h.legible _ rfl).1, h.word (.inr rfl)⟩
  · rintro ⟨houtside, hword⟩
    refine ⟨fun token htoken => ?_, fun _ => hword⟩
    obtain rfl := Option.some.inj htoken
    exact ⟨houtside, .inl hword⟩

/-- A part inside a tag, behind its name. -/
theorem opens_attribute {mode : Mode} (kind : Kind) (hkind : mode.kind? = some kind)
    (hattribute : kind.isAttribute = true) :
    Opens before ⟨mode, buffer⟩ ↔ (⟨kind, buffer⟩ : Token).LegibleIn before := by
  constructor
  · exact fun h => h.legible _ (by simp [State.token?, hkind])
  · intro h
    refine ⟨fun token htoken => ?_, fun hmode => ?_⟩
    · simp only [State.token?, hkind, Option.map_some, Option.some.injEq] at htoken
      exact htoken ▸ h
    · rcases hmode with rfl | rfl <;> cases hkind <;> cases hattribute

end

theorem forall_mem_push {P : Char → Prop} {buffer : String} {c : Char}
    (h : ∀ d ∈ buffer.toList, P d) (hc : P c) : ∀ d ∈ (buffer.push c).toList, P d := by
  intro d hd
  rcases List.mem_append.mp (String.toList_push c ▸ hd) with hd | hd
  · exact h d hd
  · rw [List.mem_singleton.mp hd]
    exact hc

theorem head_push_ne_slash {buffer : String} {c : Char} (h : buffer.toList.head? ≠ some '/')
    (hc : ¬ (c = '/' ∧ buffer = "")) : (buffer.push c).toList.head? ≠ some '/' := by
  rw [String.toList_push, List.head?_append]
  cases hbuffer : buffer.toList with
  | nil =>
    have hempty : buffer = "" := String.toList_eq_nil_iff.mp hbuffer
    simpa using fun hslash => hc ⟨hslash, hempty⟩
  | cons first rest =>
    rw [hbuffer] at h
    simpa using h

theorem isTagName_push {buffer : String} {c : Char}
    (h : ∀ d ∈ buffer.toList, isNameChar d = true) (hc : Text.isTagBlank c = true) :
    IsTagName (buffer.push c).toList :=
  .inr ⟨buffer.toList, c, String.toList_push c, h, hc⟩

/-- Blanks are read one by one. -/
theorem opens_blank : Opens .tagContinuation ⟨.tagContinuation, ""⟩ :=
  (opens_attribute .tagContinuation rfl rfl).mpr ⟨.inl rfl, by simp⟩

theorem opens_empty_content {before : Mode} : Opens before ⟨.content, ""⟩ :=
  opens_content.mpr (by simp)

/-- A character ends the open part as a legible token, behind which another part opens, or the open
part goes on. -/
theorem Opens.step {before : Mode} {state : State} (h : Opens before state)
    (hmode : state.mode ≠ .start) (c : Char) {rest : List Token}
    (hrest : ∀ {after : Mode}, Opens after (state.step c).1 → Legible after rest) :
    Legible before ((state.step c).2.toList ++ rest) := by
  obtain ⟨mode, buffer⟩ := state
  cases mode with
  | start => exact absurd rfl hmode
  | content =>
    have htext := opens_content.mp h
    rw [State.step_content] at hrest ⊢
    split_ifs at hrest ⊢ with hopen
    · exact ⟨htext, hrest (opens_tagOpen.mpr ⟨.inr rfl, by simp, by simp⟩)⟩
    · refine hrest (opens_content.mpr fun hmem => ?_)
      exact forall_mem_push (P := (· ≠ '<')) (fun d hd => ne_of_mem_of_not_mem hd htext) hopen _
        hmem rfl
  | tagOpen =>
    obtain ⟨houtside, hslash, hword⟩ := opens_tagOpen.mp h
    rw [State.step_tagOpen] at hrest ⊢
    split_ifs at hrest ⊢ with hclose hblank hend
    · exact hrest (opens_tagClose.mpr ⟨houtside, by simp⟩)
    · have hbehind : (⟨.tagOpen, buffer.push c⟩ : Token).modeBehind = .tagContinuation := by
        simp [Token.modeBehind, hblank]
      exact ⟨⟨houtside, head_push_ne_slash hslash hclose, isTagName_push hword hblank⟩,
        hrest (hbehind ▸ opens_blank)⟩
    · exact ⟨⟨houtside, hslash, .inl hword⟩, hrest opens_empty_content⟩
    · exact hrest (opens_tagOpen.mpr ⟨houtside, head_push_ne_slash hslash hclose,
        forall_mem_push hword (isNameChar_iff.mpr ⟨hblank, hend⟩)⟩)
  | tagClose =>
    obtain ⟨houtside, hword⟩ := opens_tagClose.mp h
    rw [State.step_tagClose] at hrest ⊢
    split_ifs at hrest ⊢ with hblank hend
    · have hbehind : (⟨.tagClose, buffer.push c⟩ : Token).modeBehind = .tagContinuation := by
        simp [Token.modeBehind, hblank]
      exact ⟨⟨houtside, isTagName_push hword hblank⟩, hrest (hbehind ▸ opens_blank)⟩
    · exact ⟨⟨houtside, .inl hword⟩, hrest opens_empty_content⟩
    · exact hrest (opens_tagClose.mpr ⟨houtside,
        forall_mem_push hword (isNameChar_iff.mpr ⟨hblank, hend⟩)⟩)
  | tagContinuation =>
    have htoken := (opens_attribute .tagContinuation rfl rfl).mp h
    obtain ⟨hbefore, hblanks⟩ := htoken
    rw [State.step_tagContinuation] at hrest ⊢
    split_ifs at hrest ⊢ with hblank hend
    · refine ⟨⟨hbefore.imp_right fun hname => ⟨hname.1, ?_⟩, forall_mem_push hblanks hblank⟩,
        hrest opens_blank⟩
      exact fun hempty => by simpa using congrArg String.toList hempty
    · exact ⟨⟨hbefore, hblanks⟩, hrest opens_empty_content⟩
    · refine ⟨⟨hbefore, hblanks⟩, hrest ((opens_attribute .attributeName rfl rfl).mpr ?_)⟩
      refine ⟨rfl, c, [], ?_, isNameChar_iff.mpr ⟨hblank, hend⟩, ?_⟩ <;> simp
  | attributeName =>
    have htoken := (opens_attribute .attributeName rfl rfl).mp h
    obtain ⟨hbefore, first, word, htext, hfirst, hword⟩ := htoken
    have hname : IsAttributeName buffer.toList := ⟨first, word, htext, hfirst, hword⟩
    rw [State.step_attributeName] at hrest ⊢
    split_ifs at hrest ⊢ with hsign hblank hend
    · exact ⟨⟨hbefore, hname⟩, hrest ((opens_attribute .attributeEquals rfl rfl).mpr ⟨rfl, rfl⟩)⟩
    · refine ⟨⟨hbefore, hname⟩, hrest ((opens_attribute .tagContinuation rfl rfl).mpr ?_)⟩
      refine ⟨.inr ⟨rfl, ?_⟩, ?_⟩
      · exact fun hempty => by simpa using congrArg String.toList hempty
      · simpa using hblank
    · exact ⟨⟨hbefore, hname⟩, hrest opens_empty_content⟩
    · refine hrest ((opens_attribute .attributeName rfl rfl).mpr
        ⟨hbefore, first, word ++ [c], ?_, hfirst, fun d hd => ?_⟩)
      · simp [htext]
      · rcases List.mem_append.mp hd with hd | hd
        · exact hword d hd
        · rw [List.mem_singleton.mp hd]
          exact ⟨isNameChar_iff.mpr ⟨hblank, hend⟩, hsign⟩
  | attributeEquals =>
    have htoken := (opens_attribute .attributeEquals rfl rfl).mp h
    rw [State.step_attributeEquals] at hrest ⊢
    split_ifs at hrest ⊢ with hquote hend
    · exact ⟨htoken, hrest ((opens_attribute .attributeValue rfl rfl).mpr ⟨rfl, by simp⟩)⟩
    · exact ⟨htoken, hrest opens_empty_content⟩
    · exact hrest h
  | attributeValue =>
    have htoken := (opens_attribute .attributeValue rfl rfl).mp h
    obtain ⟨hbefore, htext⟩ := htoken
    rw [State.step_attributeValue] at hrest ⊢
    split_ifs at hrest ⊢ with hquote
    · exact ⟨⟨hbefore, htext⟩, hrest opens_blank⟩
    · refine hrest ((opens_attribute .attributeValue rfl rfl).mpr ⟨hbefore, fun hmem => ?_⟩)
      exact forall_mem_push (P := (· ≠ '"')) (fun d hd => ne_of_mem_of_not_mem hd htext) hquote _
        hmem rfl

theorem Opens.legible_tokens {before : Mode} {state : State} (h : Opens before state)
    (hmode : state.mode ≠ .start) (cs : List Char) : Legible before (tokens state cs) := by
  induction cs generalizing before state with
  | nil =>
    rw [tokens_nil]
    cases htoken : state.token? with
    | none => trivial
    | some token => exact ⟨h.legible token htoken, trivial⟩
  | cons c cs ih =>
    rw [tokens_cons]
    exact h.step hmode c fun hafter => ih hafter (state.mode_step_ne_start c)

end Lexer

theorem legible_tokenize (text : String) : Legible .start (tokenize text) := by
  unfold tokenize
  cases text.toList with
  | nil => trivial
  | cons c cs =>
    have hopens : Opens .start (State.initial.step c).1 ∧ (State.initial.step c).2 = none := by
      unfold State.initial
      rw [State.step_start]
      split_ifs with hopen
      · exact ⟨opens_tagOpen.mpr ⟨.inl rfl, by simp, by simp⟩, rfl⟩
      · exact ⟨opens_content.mpr (by simpa using Ne.symm hopen), rfl⟩
    rw [tokens_cons, hopens.2]
    exact hopens.1.legible_tokens (State.initial.mode_step_ne_start c) cs

end MailTemplate.Markup
