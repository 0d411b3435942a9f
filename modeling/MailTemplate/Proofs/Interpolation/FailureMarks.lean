import MailTemplate.Interpolation
import MailTemplate.Proofs.Markup.Substitution
import MailTemplate.Proofs.Markup.TokenText

/-! # What a failed expression does to a document

The mark of a failed expression is written as a `span` wherever the expression stands. In content it
is read as one, and the rest of the document is what it would be without the mark. In a value the
mark is not safe as the escaped text of a result is: its first quote ends the value, its bracket ends
the tag, and the rest of the tag becomes content (`tokenize_errorMark`). -/

namespace MailTemplate.Interpolation

open Markup Lexer

def messageTokens (message : String) : List Token :=
  lineTokens "" (Text.split (· == '\n') message.toList) "" ++ [⟨.tagClose, "span"⟩]

def markTokens (message : String) : List Token :=
  [⟨.tagOpen, "span "⟩, ⟨.tagContinuation, ""⟩, ⟨.attributeName, "class"⟩, ⟨.attributeEquals, "="⟩,
    ⟨.attributeValue, errorClass⟩, ⟨.tagContinuation, ""⟩] ++ messageTokens message

/-- A mark in a value, behind what ends the value: the rest of its tag, and its text. -/
def brokenMarkTokens (message : String) : List Token :=
  [⟨.tagContinuation, ""⟩, ⟨.attributeName, errorClass ++ "\""⟩] ++ messageTokens message

/-! ## Reading a mark -/

theorem toList_errorMark (message : String) :
    (errorMark message).toList =
      "<span class=\"jserror\">".toList ++ ((Markup.escape message).toList ++ "</span>".toList) := by
  rw [errorMark_eq, String.toList_append, String.toList_append, List.append_assoc]

/-- In content the tag of a mark is read as one. -/
theorem reads_markStart_content (text : String) :
    Reads ⟨.content, text⟩ "<span class=\"jserror\">".toList
      [⟨.content, text⟩, ⟨.tagOpen, "span "⟩, ⟨.tagContinuation, ""⟩, ⟨.attributeName, "class"⟩,
        ⟨.attributeEquals, "="⟩, ⟨.attributeValue, errorClass⟩, ⟨.tagContinuation, ""⟩]
      ⟨.content, ""⟩ := by
  have htag : Reads ⟨.tagOpen, ""⟩ "span class=\"jserror\">".toList
      [⟨.tagOpen, "span "⟩, ⟨.tagContinuation, ""⟩, ⟨.attributeName, "class"⟩,
        ⟨.attributeEquals, "="⟩, ⟨.attributeValue, errorClass⟩, ⟨.tagContinuation, ""⟩]
      ⟨.content, ""⟩ :=
    ⟨by decide +kernel, by decide +kernel⟩
  exact htag.cons (Lexer.State.step_openingBracket text)

/-- The quote of a mark ends the value, and its bracket the tag. -/
theorem reads_markStart_value (text : String) :
    Reads ⟨.attributeValue, text⟩ "<span class=\"jserror\">".toList
      [⟨.attributeValue, text ++ "<span class="⟩, ⟨.tagContinuation, ""⟩,
        ⟨.attributeName, errorClass ++ "\""⟩]
      ⟨.content, ""⟩ := by
  have hvalue := Reads.value (show '"' ∉ "<span class=".toList by decide) text
  rw [String.ofList_toList] at hvalue
  have htag : Reads ⟨.tagContinuation, ""⟩ "jserror\">".toList
      [⟨.tagContinuation, ""⟩, ⟨.attributeName, errorClass ++ "\""⟩] ⟨.content, ""⟩ :=
    ⟨by decide +kernel, by decide +kernel⟩
  exact hvalue.trans (htag.cons (Lexer.State.step_attributeValue _ '"'))

theorem reads_markEnd (text : String) :
    Reads ⟨.content, text⟩ "</span>".toList [⟨.content, text⟩, ⟨.tagClose, "span"⟩]
      ⟨.content, ""⟩ := by
  have htext : "</span>" = "</" ++ "span" ++ ">" := by decide +kernel
  rw [htext]
  exact Reads.closingTag (List.all_eq_true.mp (by decide)) text

theorem tokens_message (message : String) (rest : List Char) :
    tokens ⟨.content, ""⟩ ((Markup.escape message).toList ++ ("</span>".toList ++ rest)) =
      messageTokens message ++ tokens ⟨.content, ""⟩ rest := by
  have hend (text : String) : tokens ⟨.content, text⟩ ("</span>".toList ++ rest) =
      ⟨.content, text ++ ""⟩ :: ⟨.tagClose, "span"⟩ :: tokens ⟨.content, ""⟩ rest := by
    rw [(reads_markEnd text).tokens, String.append_empty]
    rfl
  have hlines := tokens_escape_content hend "" message.toList
  rw [String.ofList_toList] at hlines
  rw [hlines, messageTokens, List.append_assoc, List.singleton_append]

theorem tokens_mark_content (text message : String) (rest : List Char) :
    tokens ⟨.content, text⟩ ((errorMark message).toList ++ rest) =
      ⟨.content, text⟩ :: markTokens message ++ tokens ⟨.content, ""⟩ rest := by
  rw [toList_errorMark, List.append_assoc, List.append_assoc,
    (reads_markStart_content text).tokens, tokens_message, ← List.append_assoc]
  rfl

theorem tokens_mark_value (text message : String) (rest : List Char) :
    tokens ⟨.attributeValue, text⟩ ((errorMark message).toList ++ rest) =
      ⟨.attributeValue, text ++ "<span class="⟩ :: brokenMarkTokens message ++
        tokens ⟨.content, ""⟩ rest := by
  rw [toList_errorMark, List.append_assoc, List.append_assoc,
    (reads_markStart_value text).tokens, tokens_message, ← List.append_assoc]
  rfl

/-! ## Documents with a mark -/

/-- In content a mark takes the place of no token and changes none but the one that it stands in. In
a value the tokens before it stay, too, but what is behind it is read as content. -/
theorem tokenize_errorMark (before behind : String) :
    (∀ text, Lexer.State.initial.after before.toList = ⟨.content, text⟩ →
      ∃ word rest, word.toList <+: behind.toList ∧
        tokenize (before ++ behind) =
          recorded .initial before.toList ++ ⟨.content, text ++ word⟩ :: rest ∧
        ∀ message, tokenize (before ++ errorMark message ++ behind) =
          recorded .initial before.toList ++ (⟨.content, text⟩ :: markTokens message) ++
            ⟨.content, word⟩ :: rest) ∧
    (∀ text, Lexer.State.initial.after before.toList = ⟨.attributeValue, text⟩ →
      ∃ word rest, word.toList <+: behind.toList ∧
        tokenize (before ++ behind) =
          recorded .initial before.toList ++ ⟨.attributeValue, text ++ word⟩ :: rest ∧
        ∀ message, tokenize (before ++ errorMark message ++ behind) =
          recorded .initial before.toList ++
            (⟨.attributeValue, text ++ "<span class="⟩ :: brokenMarkTokens message) ++
            tokens ⟨.content, ""⟩ behind.toList) := by
  refine ⟨fun text h => ?_, fun text h => ?_⟩
  · obtain ⟨word, rest, hprefix, htokens⟩ := Mode.content_endsAt.exists_tokens behind.toList
    refine ⟨word, rest, hprefix, ?_, fun message => ?_⟩
    · rw [tokenize, String.toList_append, tokens_append, h, htokens]
    · rw [tokenize, String.toList_append, String.toList_append, List.append_assoc, tokens_append, h,
        tokens_mark_content, htokens, String.empty_append, List.append_assoc]
  · obtain ⟨word, rest, hprefix, htokens⟩ :=
      Mode.attributeValue_endsAt.exists_tokens behind.toList
    refine ⟨word, rest, hprefix, ?_, fun message => ?_⟩
    · rw [tokenize, String.toList_append, tokens_append, h, htokens]
    · rw [tokenize, String.toList_append, String.toList_append, List.append_assoc, tokens_append, h,
        tokens_mark_value, List.append_assoc]

/-- A mark in a paragraph, and one in the target of a link. -/
theorem tokenize_errorMark_noteLink :
    (∃ word rest, tokenize ("<p>" ++ "</p>") = [⟨.tagOpen, "p"⟩] ++ ⟨.content, word⟩ :: rest ∧
      tokenize ("<p>" ++ errorMark "m" ++ "</p>") =
        [⟨.tagOpen, "p"⟩] ++ (⟨.content, ""⟩ :: markTokens "m") ++ ⟨.content, word⟩ :: rest) ∧
      tokenize ("<a href=\"" ++ errorMark "m" ++ "\" id=\"x\">y</a>") =
        [⟨.tagOpen, "a "⟩, ⟨.tagContinuation, ""⟩, ⟨.attributeName, "href"⟩,
            ⟨.attributeEquals, "="⟩] ++
          (⟨.attributeValue, "<span class="⟩ :: brokenMarkTokens "m") ++
          [⟨.content, "\" id=\"x\">y"⟩, ⟨.tagClose, "a"⟩, ⟨.content, ""⟩] := by
  have hcontent : Lexer.State.initial.after "<p>".toList = ⟨.content, ""⟩ := by
    decide +kernel
  have hvalue : Lexer.State.initial.after "<a href=\"".toList = ⟨.attributeValue, ""⟩ := by
    decide +kernel
  have hrecorded : recorded .initial "<a href=\"".toList =
      [⟨.tagOpen, "a "⟩, ⟨.tagContinuation, ""⟩, ⟨.attributeName, "href"⟩,
        ⟨.attributeEquals, "="⟩] := by
    decide +kernel
  have hbehind : tokens ⟨.content, ""⟩ "\" id=\"x\">y</a>".toList =
      [⟨.content, "\" id=\"x\">y"⟩, ⟨.tagClose, "a"⟩, ⟨.content, ""⟩] := by
    decide +kernel
  obtain ⟨word, rest, -, htokens, hmark⟩ := (tokenize_errorMark "<p>" "</p>").1 _ hcontent
  obtain ⟨_, _, -, -, hvalueMark⟩ :=
    (tokenize_errorMark "<a href=\"" "\" id=\"x\">y</a>").2 _ hvalue
  have hlink := hvalueMark "m"
  rw [hrecorded, hbehind] at hlink
  exact ⟨⟨word, rest, htokens, hmark "m"⟩, hlink⟩

/-- Behind the target of a link, the attributes and the text are not those of the document without
the mark. -/
theorem not_tokenize_errorMark_linkTarget :
    Lexer.State.initial.after "<a href=\"".toList = ⟨.attributeValue, ""⟩ ∧
      tokenize ("<a href=\"" ++ "\" id=\"x\">y</a>") =
        recorded .initial "<a href=\"".toList ++ ⟨.attributeValue, ""⟩ ::
          [⟨.tagContinuation, " "⟩, ⟨.tagContinuation, ""⟩, ⟨.attributeName, "id"⟩,
            ⟨.attributeEquals, "="⟩, ⟨.attributeValue, "x"⟩, ⟨.tagContinuation, ""⟩,
            ⟨.content, "y"⟩, ⟨.tagClose, "a"⟩, ⟨.content, ""⟩] ∧
      ¬ [⟨.tagContinuation, " "⟩, ⟨.tagContinuation, ""⟩, ⟨.attributeName, "id"⟩,
            ⟨.attributeEquals, "="⟩, ⟨.attributeValue, "x"⟩, ⟨.tagContinuation, ""⟩,
            ⟨.content, "y"⟩, ⟨.tagClose, "a"⟩, ⟨.content, ""⟩] <:+
        tokenize ("<a href=\"" ++ errorMark "m" ++ "\" id=\"x\">y</a>") := by
  refine ⟨?_, ?_, ?_⟩ <;> decide +kernel

end MailTemplate.Interpolation
