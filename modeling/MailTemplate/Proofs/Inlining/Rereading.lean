import MailTemplate.Proofs.Inlining.Outline
import MailTemplate.Proofs.Markup.RoundTrip
import MailTemplate.Proofs.Markup.Substitution
import MailTemplate.Proofs.Markup.TokenText

/-! # Reading back a legible stream

A legible stream is written as a text with the same outline: the lexer may cut the blanks in a tag
and the content between two tags in other places than the stream does, and nothing else
(`shape_tokens_written`). Trimming the text takes blanks from the two ends of the document, and
perhaps the blank behind the name of its last tag, which is not a part of the name
(`outline_toText`). -/

namespace MailTemplate.Inlining

open Markup Lexer

/-! ## One token -/

/-- Over the text of a token the lexer goes to the state behind it, and what it records is the open
part and the token, but for blanks in a tag. -/
def Rereads (state : State) (token : Token) : Prop :=
  ∃ read next, Reads state (textIn state.mode.inTag token) read next ∧
    next.mode = token.modeBehind ∧
    ∀ rest, shape (read ++ (next.token?.toList ++ rest)) = shape (state.token?.toList ++ token :: rest)

section

variable {mode : Mode} {kind : Kind} {word : List Char}

theorem modeBehind_of_word (hkind : mode.kind? = some kind) (htag : kind.isTag = true)
    (h : ∀ c ∈ word, isNameChar c = true) :
    (⟨kind, String.ofList word⟩ : Token).modeBehind = mode := by
  have hlast := isTagBlank_last_of_word h
  cases mode <;> cases hkind <;> cases htag <;> simp [Token.modeBehind, hlast]

theorem modeBehind_of_blank (htag : kind.isTag = true) (word : List Char) {blank : Char}
    (h : Text.isTagBlank blank = true) :
    (⟨kind, String.ofList (word ++ [blank])⟩ : Token).modeBehind = .tagContinuation := by
  cases kind <;> cases htag <;> simp [Token.modeBehind, h]

theorem reads_tagWord (hkind : mode.kind? = some kind) (htag : kind.isTag = true)
    (h : ∀ c ∈ word, isNameChar c = true) (hslash : kind = .tagOpen → word.head? ≠ some '/')
    (buffer : String) :
    Reads ⟨.content, buffer⟩ (textIn false ⟨kind, String.ofList word⟩) [⟨.content, buffer⟩]
      ⟨mode, String.ofList word⟩ := by
  have hopen := State.step_openingBracket buffer
  have hword := Reads.tagWord hkind htag h hslash
  cases mode <;> cases hkind <;> cases htag
  · simpa [textIn] using hword.cons hopen
  · have hclose : State.step ⟨.tagOpen, ""⟩ '/' = (⟨.tagClose, ""⟩, none) := rfl
    simpa [textIn] using (hword.cons hclose).cons hopen

end

section

variable {mode : Mode} {buffer text : String}

/-- Content that was read before becomes a part of this one. -/
theorem rereads_content (h : '<' ∉ text.toList) (hstart : mode ≠ .start)
    (hvalue : mode ≠ .attributeValue) : Rereads ⟨mode, buffer⟩ ⟨.content, text⟩ := by
  by_cases hcontent : mode = .content
  · subst hcontent
    refine ⟨[], _, .content h buffer, rfl, fun rest => ?_⟩
    simpa [State.token?, Mode.kind?] using (Shape.cons_cons_content buffer text (shape rest)).symm
  · have htag : mode.inTag = true := by simp [Mode.inTag, hstart, hcontent]
    have hread := (Reads.content h "").cons (State.step_closingBracket htag hvalue buffer)
    refine ⟨(State.token? ⟨mode, buffer⟩).toList, ⟨.content, text⟩, ?_, rfl, fun rest => rfl⟩
    simpa [textIn, htag] using hread

theorem rereads_tag {kind : Kind} (hkind : mode.kind? = some kind) (htag : kind.isTag = true)
    (h : IsTagName text.toList) (hslash : kind = .tagOpen → text.toList.head? ≠ some '/') :
    Rereads ⟨.content, buffer⟩ ⟨kind, text⟩ := by
  rcases h with hword | ⟨word, blank, htext, hword, hblank⟩
  · have hread := reads_tagWord hkind htag hword hslash buffer
    have hmode := modeBehind_of_word hkind htag hword
    rw [String.ofList_toList] at hread hmode
    refine ⟨_, _, hread, hmode.symm, fun rest => ?_⟩
    rw [State.token?, hkind]
    rfl
  · obtain rfl : text = String.ofList (word ++ [blank]) := by rw [← htext, String.ofList_toList]
    have hslash' (hopen : kind = .tagOpen) : word.head? ≠ some '/' := by
      have hhead := hslash hopen
      cases word <;> simp_all
    have hread := (reads_tagWord hkind htag hword hslash' buffer).trans
      (.single (State.step_blank hkind htag hblank (String.ofList word)))
    refine ⟨[⟨.content, buffer⟩, ⟨kind, String.ofList (word ++ [blank])⟩], ⟨.tagContinuation, ""⟩, ?_,
      (modeBehind_of_blank htag word hblank).symm, fun rest => rfl⟩
    cases kind <;> cases htag <;> simpa [textIn] using hread

/-- Each blank is recorded as a token of its own. -/
theorem rereads_continuation (h : ∀ c ∈ text.toList, Text.isTagBlank c = true)
    (hmode : mode = .tagContinuation ∨ mode = .attributeName ∧ text ≠ "") :
    Rereads ⟨mode, buffer⟩ ⟨.tagContinuation, text⟩ := by
  rcases hmode with rfl | ⟨rfl, hne⟩
  · obtain ⟨read, last, hread, hkinds⟩ := Reads.blanks h buffer
    refine ⟨read, _, hread, rfl, fun rest => ?_⟩
    rw [shape_continuations hkinds]
    rfl
  · obtain ⟨c, cs, htext⟩ := List.exists_cons_of_ne_nil (mt String.toList_eq_nil_iff.mp hne)
    rw [htext] at h
    obtain ⟨hc, hcs⟩ := List.forall_mem_cons.mp h
    obtain ⟨read, last, hread, hkinds⟩ := Reads.blanks hcs (String.singleton c)
    have hsign : c ≠ '=' := by
      rintro rfl
      cases hc
    have hstep : State.step ⟨.attributeName, buffer⟩ c =
        (⟨.tagContinuation, String.singleton c⟩, some ⟨.attributeName, buffer⟩) := by
      rw [State.step_attributeName, if_neg hsign, if_pos hc]
    have hfirst := hread.cons hstep
    rw [← htext] at hfirst
    refine ⟨_, _, hfirst, rfl, fun rest => ?_⟩
    rw [List.append_assoc, shape_append, shape_continuations hkinds]
    rfl

theorem rereads_name (h : IsAttributeName text.toList) :
    Rereads ⟨.tagContinuation, buffer⟩ ⟨.attributeName, text⟩ := by
  obtain ⟨first, word, htext, hfirst, hword⟩ := h
  obtain ⟨hblank, hend⟩ := isNameChar_iff.mp hfirst
  have hstep : State.step ⟨.tagContinuation, buffer⟩ first =
      (⟨.attributeName, String.singleton first⟩, some ⟨.tagContinuation, buffer⟩) := by
    rw [State.step_tagContinuation, if_neg hblank, if_neg hend]
  have hread := (Reads.attributeName hword (String.singleton first)).cons hstep
  have hname : String.singleton first ++ String.ofList word = text := by
    rw [← String.ofList_toList (s := text), htext, String.ofList_cons]
  rw [hname, ← htext] at hread
  exact ⟨_, _, hread, rfl, fun rest => rfl⟩

theorem rereads_sign : Rereads ⟨.attributeName, buffer⟩ ⟨.attributeEquals, "="⟩ := by
  have hstep : State.step ⟨.attributeName, buffer⟩ '=' =
      (⟨.attributeEquals, "="⟩, some ⟨.attributeName, buffer⟩) := by
    simp [State.step_attributeName]
  exact ⟨_, _, .single hstep, rfl, fun rest => rfl⟩

theorem rereads_value (h : '"' ∉ text.toList) :
    Rereads ⟨.attributeEquals, buffer⟩ ⟨.attributeValue, text⟩ := by
  have hopen : State.step ⟨.attributeEquals, buffer⟩ '"' =
      (⟨.attributeValue, ""⟩, some ⟨.attributeEquals, buffer⟩) := by
    simp [State.step_attributeEquals]
  have hclose : State.step ⟨.attributeValue, text⟩ '"' =
      (⟨.tagContinuation, ""⟩, some ⟨.attributeValue, text⟩) := by
    simp [State.step_attributeValue]
  have hread := ((Reads.value h "").trans (.single (by simpa using hclose))).cons hopen
  exact ⟨_, _, hread, rfl, fun rest => rfl⟩

end

theorem mode_eq_content {mode : Mode} (h : mode.Outside) (hstart : mode ≠ .start) :
    mode = .content :=
  h.resolve_left hstart

theorem rereads_of_legibleIn {mode : Mode} {token : Token} (h : token.LegibleIn mode)
    (hstart : mode ≠ .start) (hvalue : mode ≠ .attributeValue) (buffer : String) :
    Rereads ⟨mode, buffer⟩ token := by
  obtain ⟨kind, text⟩ := token
  cases kind with
  | tagOpen =>
    obtain ⟨houtside, hslash, hname⟩ := h
    obtain rfl : mode = .content := mode_eq_content houtside hstart
    exact rereads_tag (show Mode.tagOpen.kind? = _ from rfl) rfl hname fun _ => hslash
  | tagClose =>
    obtain ⟨houtside, hname⟩ := h
    obtain rfl : mode = .content := mode_eq_content houtside hstart
    exact rereads_tag (show Mode.tagClose.kind? = _ from rfl) rfl hname fun hopen => nomatch hopen
  | content => exact rereads_content h hstart hvalue
  | tagContinuation => exact rereads_continuation h.2 h.1
  | attributeName =>
    obtain ⟨rfl, hname⟩ := h
    exact rereads_name hname
  | attributeEquals =>
    obtain ⟨rfl, rfl⟩ := h
    exact rereads_sign
  | attributeValue =>
    obtain ⟨rfl, htext⟩ := h
    exact rereads_value htext

/-! ## A stream -/

theorem modeBehind_ne (token : Token) :
    token.modeBehind ≠ .start ∧ token.modeBehind ≠ .attributeValue := by
  obtain ⟨kind, text⟩ := token
  cases kind <;> simp only [Token.modeBehind] <;> (try split) <;> simp

theorem inTag_modeBehind (token : Token) : token.modeBehind.inTag = (token.kind != .content) := by
  obtain ⟨kind, text⟩ := token
  cases kind <;> simp only [Token.modeBehind] <;> (try split) <;> rfl

/-- What is written for a legible stream is read as the open part and the stream, and no value is
open at its end. -/
theorem shape_tokens_written {mode : Mode} {tokens : List Token} (h : Legible mode tokens)
    (hstart : mode ≠ .start) (hvalue : mode ≠ .attributeValue) (buffer : String) :
    (State.after ⟨mode, buffer⟩ (writtenIn mode.inTag tokens)).mode ≠ .attributeValue ∧
      shape (Lexer.tokens ⟨mode, buffer⟩ (writtenIn mode.inTag tokens)) =
        shape ((State.token? ⟨mode, buffer⟩).toList ++ tokens) := by
  induction tokens generalizing mode buffer with
  | nil =>
    rw [writtenIn, State.after_nil, tokens_nil, List.append_nil]
    exact ⟨hvalue, rfl⟩
  | cons token tokens ih =>
    obtain ⟨htoken, htokens⟩ := h
    obtain ⟨read, ⟨mode', buffer'⟩, hread, hnext, hshape⟩ :=
      rereads_of_legibleIn htoken hstart hvalue buffer
    obtain rfl : mode' = token.modeBehind := hnext
    obtain ⟨hstart', hvalue'⟩ := modeBehind_ne token
    obtain ⟨hmode, hrest⟩ := ih htokens hstart' hvalue' buffer'
    rw [inTag_modeBehind] at hmode hrest
    rw [writtenIn, State.after_append, hread.after, hread.tokens, shape_append, hrest,
      ← shape_append, hshape]
    exact ⟨hmode, rfl⟩

/-! ## The two ends of a document -/

theorem shape_tokens_continuation {cs : List Char} (h : ∀ c ∈ cs, Text.isTagBlank c = true)
    (buffer : String) : shape (Lexer.tokens ⟨.tagContinuation, buffer⟩ cs) = .empty := by
  obtain ⟨read, last, hread, hkinds⟩ := Reads.blanks h buffer
  have htokens := hread.tokens []
  rw [List.append_nil] at htokens
  rw [htokens, shape_continuations hkinds]
  rfl

theorem tokens_attributeEquals {cs : List Char} (h : ∀ c ∈ cs, Text.isTagBlank c = true)
    (buffer : String) :
    Lexer.tokens ⟨.attributeEquals, buffer⟩ cs = [⟨.attributeEquals, buffer⟩] := by
  induction cs with
  | nil => rfl
  | cons c cs ih =>
    obtain ⟨hc, hcs⟩ := List.forall_mem_cons.mp h
    have hpassed : State.passesOver ⟨.attributeEquals, buffer⟩ c = true := by
      have hquote : c ≠ '"' := by rintro rfl; cases hc
      have hend : c ≠ '>' := by rintro rfl; cases hc
      simp [State.passesOver, hquote, hend]
    rw [tokens_cons, step_of_passesOver hpassed, ih hcs]
    rfl

theorem shape_tokens_tagName {mode : Mode} {kind : Kind} (hkind : mode.kind? = some kind)
    (htag : kind.isTag = true) {cs : List Char} (h : ∀ c ∈ cs, Text.isTagBlank c = true)
    (buffer : String) : shape (Lexer.tokens ⟨mode, buffer⟩ cs) = shape [⟨kind, buffer⟩] := by
  cases cs with
  | nil => rw [tokens_nil, State.token?, hkind]; rfl
  | cons c cs =>
    obtain ⟨hc, hcs⟩ := List.forall_mem_cons.mp h
    have hname := Text.trim_push_blank (Text.isBlank_of_isTagBlank hc) buffer
    have hrest := shape_tokens_continuation hcs ""
    rw [tokens_cons, State.step_blank hkind htag hc, Option.toList_some, List.singleton_append,
      shape_cons, hrest, shape_cons, shape_nil]
    cases kind <;> cases htag <;> simp only [Shape.cons, hname]

theorem shape_tokens_attributeName {cs : List Char} (h : ∀ c ∈ cs, Text.isTagBlank c = true)
    (buffer : String) :
    shape (Lexer.tokens ⟨.attributeName, buffer⟩ cs) = shape [⟨.attributeName, buffer⟩] := by
  cases cs with
  | nil => rfl
  | cons c cs =>
    obtain ⟨hc, hcs⟩ := List.forall_mem_cons.mp h
    have hsign : c ≠ '=' := by
      rintro rfl
      cases hc
    rw [tokens_cons, State.step_attributeName, if_neg hsign, if_pos hc, Option.toList_some,
      List.singleton_append, shape_cons, shape_tokens_continuation hcs]
    rfl

/-- Blanks at the end of a document are content, or they are a part of its last tag that its outline
does not show. -/
theorem exists_shape_tokens {state : State} (hstart : state.mode ≠ .start)
    (hvalue : state.mode ≠ .attributeValue) {behind : List Char}
    (h : ∀ c ∈ behind, Text.isTagBlank c = true) :
    ∃ more, (∀ c ∈ more, Text.isBlank c = true) ∧
      shape (Lexer.tokens state behind) = (shape state.token?.toList).extend more := by
  obtain ⟨mode, buffer⟩ := state
  by_cases hcontent : mode = .content
  · subst hcontent
    have hopen : '<' ∉ behind := fun hmem => by simpa [Text.isTagBlank] using h _ hmem
    have hread := (Reads.content hopen buffer).tokens []
    rw [List.append_nil] at hread
    refine ⟨behind, fun c hc => Text.isBlank_of_isTagBlank (h c hc), ?_⟩
    rw [hread]
    simp [tokens_nil, State.token?, Mode.kind?, Shape.cons, Shape.empty, Shape.extend,
      Outline.extend, Outline.mapLast]
  · refine ⟨[], by simp, ?_⟩
    rw [Shape.extend_nil]
    cases mode with
    | start => exact absurd rfl hstart
    | content => exact absurd rfl hcontent
    | attributeValue => exact absurd rfl hvalue
    | tagOpen => exact shape_tokens_tagName rfl rfl h buffer
    | tagClose => exact shape_tokens_tagName rfl rfl h buffer
    | tagContinuation => exact shape_tokens_continuation h buffer
    | attributeName => exact shape_tokens_attributeName h buffer
    | attributeEquals => rw [tokens_attributeEquals h]; rfl

theorem exists_shape_append {state : State} {cs : List Char} (hstart : state.mode ≠ .start)
    (hvalue : (state.after cs).mode ≠ .attributeValue) {behind : List Char}
    (h : ∀ c ∈ behind, Text.isTagBlank c = true) :
    ∃ more, (∀ c ∈ more, Text.isBlank c = true) ∧
      shape (Lexer.tokens state (cs ++ behind)) = (shape (Lexer.tokens state cs)).extend more := by
  obtain ⟨more, hmore, hend⟩ := exists_shape_tokens (State.mode_after_ne_start hstart cs) hvalue h
  have hcs := tokens_append state cs []
  rw [List.append_nil, tokens_nil] at hcs
  refine ⟨more, hmore, ?_⟩
  rw [tokens_append, hcs]
  exact shape_append_extend hend (recorded state cs)

/-- A document that is read as if content had been read before it. -/
theorem outline_tokens_content (buffer : String) (cs : List Char) :
    (shape (Lexer.tokens ⟨.content, buffer⟩ cs)).outline =
      (shape (Lexer.tokens .initial cs)).outline.precede buffer.toList := by
  cases cs with
  | nil => simp [tokens_nil, State.token?, Mode.kind?, State.initial, Shape.cons, Outline.precede,
      Shape.empty]
  | cons c cs =>
    by_cases hc : c = '<'
    · subst hc
      rw [tokens_cons, State.step_openingBracket, tokens_cons]
      rfl
    · have hstep (buffer : String) :
          State.step ⟨.content, buffer⟩ c = (⟨.content, buffer.push c⟩, none) := by
        rw [State.step_content, if_neg hc]
      have hfirst : State.initial.step c = (⟨.content, "".push c⟩, none) := by
        unfold State.initial
        rw [State.step_start, if_neg hc]
      obtain ⟨word, rest, -, htokens⟩ := Mode.content_endsAt.exists_tokens cs
      rw [tokens_cons, hstep, tokens_cons, hfirst]
      simp [htokens, Shape.cons, Outline.precede]

/-! ## A document -/

/-- The text of a legible stream is read as a document with the same outline, but for the white
space at the two ends. -/
theorem outline_toText {tokens : List Token} (h : Legible .start tokens)
    (hblanks : ∀ c ∈ writtenIn false tokens, Text.isBlank c = true → Text.isTagBlank c = true) :
    (outline (tokenize (toText tokens))).trimmed = (outline tokens).trimmed := by
  obtain ⟨before, behind, hwritten, hbefore, hbehind⟩ := Text.exists_blanks (writtenIn false tokens)
  have htext : (toText tokens).toList = Text.trimChars (writtenIn false tokens) := by
    rw [toText, writeWith, Text.trim, String.toList_ofList, toList_writeFrom]
  generalize Text.trimChars (writtenIn false tokens) = text at hwritten htext
  have htagBlank : ∀ c ∈ behind, Text.isTagBlank c = true := fun c hc =>
    hblanks c (hwritten ▸ List.mem_append_right _ hc) (hbehind c hc)
  -- the blanks before the text are read as content
  have hopen : '<' ∉ before := fun hmem => by simpa [Text.isBlank] using hbefore _ hmem
  have hread := Reads.content hopen ""
  rw [String.empty_append] at hread
  obtain ⟨hmode, hshape⟩ := shape_tokens_written h.of_start (by simp) (by simp) ""
  rw [show Mode.content.inTag = false from rfl, hwritten, List.append_assoc] at hmode hshape
  rw [State.after_append, hread.after, State.after_append] at hmode
  rw [hread.tokens, List.nil_append] at hshape
  -- a value that was open at the end of the text would be open behind the blanks, too
  have hvalue : (State.after ⟨.content, String.ofList before⟩ text).mode ≠ .attributeValue :=
    fun hvalue => hmode (State.mode_after_blanks hvalue hbehind)
  obtain ⟨more, hmore, hend⟩ := exists_shape_append (by simp) hvalue htagBlank
  rw [hshape] at hend
  have houtline : (shape tokens).outline.trimmed =
      (shape (Lexer.tokens .initial text)).outline.trimmed := by
    calc (shape tokens).outline.trimmed
        = ((shape (Lexer.tokens ⟨.content, String.ofList before⟩ text)).extend more).outline.trimmed := by
          rw [← hend]
          rfl
      _ = (shape (Lexer.tokens ⟨.content, String.ofList before⟩ text)).outline.trimmed :=
          Outline.trimmed_extend hmore _
      _ = (shape (Lexer.tokens .initial text)).outline.trimmed := by
          rw [outline_tokens_content, String.toList_ofList, Outline.trimmed_precede hbefore]
  rw [outline_eq_shape (grouped_tokenize _), outline_eq_shape h.grouped, ← Outline.map_trimmed,
    ← Outline.map_trimmed, houtline, tokenize, htext]

end MailTemplate.Inlining
