import MailTemplate.Markup.Escape
import MailTemplate.Proofs.Markup.Reading

/-! # Substituted text

Escaped text in a document cannot end the part of the document that it is put into, but for its line
breaks in content, which are shown by tags. So putting it there changes one token of the document,
and no other one (`tokenize_substituted`). -/

namespace MailTemplate.Markup

/-! ## Escaped characters -/

@[simp] theorem escape_empty : escape "" = "" := rfl

theorem escape_ofList_cons (c : Char) (cs : List Char) :
    escape (String.ofList (c :: cs)) = escapeChar c ++ escape (String.ofList cs) := by
  simp [escape]

/-- The names of the characters are free of quotes, and so are their tags. -/
theorem quote_notMem_escapeChar (c : Char) : '"' ∉ (escapeChar c).toList := by
  unfold escapeChar
  split
  all_goals simp
  next hquote _ _ => exact fun h => hquote h.symm

/-- A bracket is put in by a line break only. -/
theorem bracket_notMem_escapeChar {c : Char} (h : c ≠ '\n') : '<' ∉ (escapeChar c).toList := by
  unfold escapeChar
  split
  all_goals simp
  · exact h rfl
  · next hbracket _ _ _ _ => exact fun h => hbracket h.symm

theorem quote_notMem_escape (text : String) : '"' ∉ (escape text).toList := by
  unfold escape
  intro hmem
  simp only [String.toList_join, List.flatMap_map, List.mem_flatMap] at hmem
  obtain ⟨c, -, hc⟩ := hmem
  exact quote_notMem_escapeChar c hc

namespace Lexer

/-! ## Parts with one end -/

/-- A part that ends at one character only and keeps all others as they are. -/
structure Mode.EndsAt (mode : Mode) (kind : Kind) (last : Char) (next : State) : Prop where
  kind_eq : mode.kind? = some kind
  step : ∀ buffer c, State.step ⟨mode, buffer⟩ c =
    if c = last then (next, some ⟨kind, buffer⟩) else (⟨mode, buffer.push c⟩, none)

theorem Mode.content_endsAt : Mode.content.EndsAt .content '<' ⟨.tagOpen, ""⟩ :=
  ⟨rfl, State.step_content⟩

theorem Mode.attributeValue_endsAt :
    Mode.attributeValue.EndsAt .attributeValue '"' ⟨.tagContinuation, ""⟩ :=
  ⟨rfl, State.step_attributeValue⟩

section

variable {mode : Mode} {kind : Kind} {last : Char} {next : State}

/-- Characters other than the last one become a part of the text. -/
theorem Mode.EndsAt.tokens_append (h : mode.EndsAt kind last next) {cs : List Char}
    (hcs : last ∉ cs) (buffer : String) (rest : List Char) :
    tokens ⟨mode, buffer⟩ (cs ++ rest) = tokens ⟨mode, buffer ++ String.ofList cs⟩ rest := by
  induction cs generalizing buffer with
  | nil => simp
  | cons c cs ih =>
    obtain ⟨hc, hcs⟩ := List.ne_and_not_mem_of_not_mem_cons hcs
    rw [List.cons_append, tokens_cons, h.step, if_neg (Ne.symm hc), Option.toList_none,
      List.nil_append, ih hcs, String.ofList_cons, ← String.append_assoc]
    simp

/-- What has been read of a part does not matter for where it ends and what follows it. -/
theorem Mode.EndsAt.exists_tokens (h : mode.EndsAt kind last next) (cs : List Char) :
    ∃ word rest, word.toList <+: cs ∧
      ∀ buffer, tokens ⟨mode, buffer⟩ cs = ⟨kind, buffer ++ word⟩ :: rest := by
  induction cs with
  | nil =>
    refine ⟨"", [], List.nil_prefix, fun buffer => ?_⟩
    simp [tokens_nil, State.token?, h.kind_eq]
  | cons c cs ih =>
    by_cases hc : c = last
    · refine ⟨"", tokens next cs, List.nil_prefix, fun buffer => ?_⟩
      simp [tokens_cons, h.step, hc]
    · obtain ⟨word, rest, hprefix, htokens⟩ := ih
      refine ⟨String.singleton c ++ word, rest, ?_, fun buffer => ?_⟩
      · simpa using hprefix
      · rw [tokens_cons, h.step, if_neg hc, Option.toList_none, List.nil_append, htokens,
          String.push_eq_append, String.append_assoc]

end

/-! ## Lines in content -/

/-- The tokens of content that starts with `text`, goes on with the escaped lines and ends with
`word`: a tag for each line break. -/
def lineTokens (text : String) : List (List Char) → String → List Token
  | [], word => [⟨.content, text ++ word⟩]
  | [line], word => [⟨.content, text ++ escape (String.ofList line) ++ word⟩]
  | line :: lines, word =>
    ⟨.content, text ++ escape (String.ofList line)⟩ :: ⟨.tagOpen, "br"⟩ :: lineTokens "" lines word

theorem lineTokens_cons_cons (text word : String) (c : Char) (line : List Char)
    (lines : List (List Char)) :
    lineTokens text ((c :: line) :: lines) word =
      lineTokens (text ++ escapeChar c) (line :: lines) word := by
  cases lines <;> simp only [lineTokens, escape_ofList_cons, String.append_assoc]

/-- The tag of a line break. -/
theorem tokens_break (text : String) (rest : List Char) :
    tokens ⟨.content, text⟩ ("<br>".toList ++ rest) =
      ⟨.content, text⟩ :: ⟨.tagOpen, "br"⟩ :: tokens ⟨.content, ""⟩ rest := by
  rfl

theorem tokens_escape_content {word : String} {cs : List Char} {rest : List Token}
    (h : ∀ text, tokens ⟨.content, text⟩ cs = ⟨.content, text ++ word⟩ :: rest) (text : String)
    (ds : List Char) :
    tokens ⟨.content, text⟩ ((escape (String.ofList ds)).toList ++ cs) =
      lineTokens text (Text.split (· == '\n') ds) word ++ rest := by
  induction ds generalizing text with
  | nil => simp [Text.split, lineTokens, h]
  | cons d ds ih =>
    have hlines := Text.split_ne_nil (· == '\n') ds
    rw [escape_ofList_cons, String.toList_append, List.append_assoc, Text.split]
    by_cases hd : d = '\n'
    · subst hd
      refine (tokens_break text _).trans ?_
      obtain ⟨line, lines, hsplit⟩ := List.exists_cons_of_ne_nil hlines
      rw [ih, hsplit]
      simp [lineTokens]
    · obtain ⟨line, lines, hsplit⟩ := List.exists_cons_of_ne_nil hlines
      rw [Mode.content_endsAt.tokens_append (bracket_notMem_escapeChar hd), String.ofList_toList, ih,
        hsplit]
      simp [hd, lineTokens_cons_cons]

end Lexer

open Lexer

/-- Escaped text in a value is a part of that value, and in content its lines are content. In both
places the tokens before and behind are those of the document without it, whatever the text is. -/
theorem tokenize_substituted (before behind : String) :
    (∀ text, State.initial.after before.toList = ⟨.attributeValue, text⟩ →
      ∃ word rest, word.toList <+: behind.toList ∧
        tokenize (before ++ behind) =
          recorded .initial before.toList ++ ⟨.attributeValue, text ++ word⟩ :: rest ∧
        ∀ s, tokenize (before ++ escape s ++ behind) =
          recorded .initial before.toList ++ ⟨.attributeValue, text ++ escape s ++ word⟩ :: rest) ∧
    (∀ text, State.initial.after before.toList = ⟨.content, text⟩ →
      ∃ word rest, word.toList <+: behind.toList ∧
        tokenize (before ++ behind) =
          recorded .initial before.toList ++ ⟨.content, text ++ word⟩ :: rest ∧
        ∀ s, tokenize (before ++ escape s ++ behind) =
          recorded .initial before.toList ++
            lineTokens text (Text.split (· == '\n') s.toList) word ++ rest) := by
  refine ⟨fun text h => ?_, fun text h => ?_⟩
  · obtain ⟨word, rest, hprefix, htokens⟩ :=
      Mode.attributeValue_endsAt.exists_tokens behind.toList
    refine ⟨word, rest, hprefix, ?_, fun s => ?_⟩
    · rw [tokenize, String.toList_append, tokens_append, h, htokens]
    · rw [tokenize, String.toList_append, String.toList_append, List.append_assoc, tokens_append, h,
        Mode.attributeValue_endsAt.tokens_append (quote_notMem_escape s), htokens,
        String.ofList_toList]
  · obtain ⟨word, rest, hprefix, htokens⟩ := Mode.content_endsAt.exists_tokens behind.toList
    refine ⟨word, rest, hprefix, ?_, fun s => ?_⟩
    · rw [tokenize, String.toList_append, tokens_append, h, htokens]
    · have hlines := tokens_escape_content htokens text s.toList
      rw [String.ofList_toList] at hlines
      rw [tokenize, String.toList_append, String.toList_append, List.append_assoc, tokens_append, h,
        hlines, List.append_assoc]

/-- The value of a title, and a paragraph of two lines. -/
theorem tokenize_substituted_title :
    (∃ word rest, tokenize ("<a title=\"" ++ escape "\">" ++ "\">") =
        [⟨.tagOpen, "a "⟩, ⟨.tagContinuation, ""⟩, ⟨.attributeName, "title"⟩,
          ⟨.attributeEquals, "="⟩] ++ ⟨.attributeValue, "&quot;&gt;" ++ word⟩ :: rest) ∧
      ∃ word rest, tokenize ("<p>" ++ escape "1\n<" ++ "</p>") =
        [⟨.tagOpen, "p"⟩, ⟨.content, "1"⟩, ⟨.tagOpen, "br"⟩, ⟨.content, "&lt;" ++ word⟩] ++
          rest := by
  have hvalue : State.initial.after "<a title=\"".toList = ⟨.attributeValue, ""⟩ := by
    decide +kernel
  have hcontent : State.initial.after "<p>".toList = ⟨.content, ""⟩ := by
    decide +kernel
  obtain ⟨word, rest, -, -, htokens⟩ := (tokenize_substituted "<a title=\"" "\">").1 _ hvalue
  obtain ⟨word', rest', -, -, htokens'⟩ := (tokenize_substituted "<p>" "</p>").2 _ hcontent
  exact ⟨⟨word, rest, htokens "\">"⟩, word', rest', htokens' "1\n<"⟩

end MailTemplate.Markup
