import MailTemplate.Interpolation
import MailTemplate.Proofs.Css.Cascade
import MailTemplate.Proofs.Inlining.Cut
import MailTemplate.Proofs.Inlining.Entries
import MailTemplate.Proofs.Markup.Substitution
import MailTemplate.Proofs.Markup.TokenText

/-! # The style block of failed expressions

A rendered document starts with a style block of one rule, for the marks of failed expressions.
Inlining takes the block away as if it had not been there, but for its rule, which is one for a class
and stands before all others (`toText_inlineStyles_preamble`). So a tag without such a class is not
affected, and in one with it the declarations of the document stand behind those of the rule. -/

namespace MailTemplate.Interpolation

open Markup Lexer Inlining

/-- The rule for the marks of failed expressions. -/
def errorRule (errorStyle : String) : Css.Rule :=
  ⟨⟨errorClass⟩, Css.normalizeDeclarations errorStyle⟩

/-- The sheet that is written in front of a document. -/
def errorSheet (errorStyle : String) : String :=
  "." ++ errorClass ++ "\x7b" ++ errorStyle ++ "\x7d"

theorem preamble_eq (errorStyle : String) :
    preamble errorStyle = "<style>" ++ errorSheet errorStyle ++ "</style>" := by
  have hopen : "<style>." = "<style>" ++ "." := by decide
  have hclose : "\x7d</style>" = "\x7d" ++ "</style>" := by decide
  rw [preamble, errorSheet, hopen, hclose]
  simp only [String.append_assoc]

theorem parse_errorSheet {errorStyle : String} (h : '}' ∉ errorStyle.toList) (css : String) :
    Css.Stylesheet.parse (errorSheet errorStyle ++ css) =
      (Css.Stylesheet.parse css).behind (errorRule errorStyle) := by
  have hname : Text.trim errorClass = errorClass := by decide
  have hparse := Css.parse_classRule (show '{' ∉ errorClass.toList by decide) (by decide) h
    (by decide) css
  rwa [hname] at hparse

/-! ## The tokens of the block -/

theorem tokenize_preamble {errorStyle : String} (h : '<' ∉ errorStyle.toList) (body : String) :
    tokenize (preamble errorStyle ++ body) =
      [⟨.tagOpen, "style"⟩, ⟨.content, errorSheet errorStyle⟩, ⟨.tagClose, "style"⟩] ++
        tokens ⟨.content, ""⟩ body.toList := by
  have hsheet : '<' ∉ (errorSheet errorStyle).toList := by
    simp [errorSheet, errorClass, h]
  have hclosing : "</style>" = "</" ++ "style" ++ ">" := by decide +kernel
  have hopen : Reads .initial "<style>".toList [⟨.tagOpen, "style"⟩] ⟨.content, ""⟩ :=
    ⟨by decide +kernel, by decide +kernel⟩
  have hclose : Reads ⟨.content, errorSheet errorStyle⟩ ("</" ++ "style" ++ ">").toList
      [⟨.content, errorSheet errorStyle⟩, ⟨.tagClose, "style"⟩] ⟨.content, ""⟩ :=
    Reads.closingTag (List.all_eq_true.mp (by decide)) _
  have hread := (hopen.trans ((Reads.wholeContent hsheet).trans hclose)).tokens body.toList
  rw [← hclosing, ← String.toList_append, ← String.toList_append, ← String.append_assoc] at hread
  rw [tokenize, preamble_eq, String.toList_append]
  exact hread

/-- A document behind the block is read as content. -/
theorem tokens_content_eq (cs : List Char) :
    tokens ⟨.content, ""⟩ cs = tokens .initial cs ∨
      tokens ⟨.content, ""⟩ cs = ⟨.content, ""⟩ :: tokens .initial cs := by
  cases cs with
  | nil => exact .inr rfl
  | cons c cs =>
    by_cases hc : c = '<'
    · subst hc
      exact .inr rfl
    · left
      rw [tokens_cons, Lexer.State.step_content, if_neg hc, tokens_cons, Lexer.State.initial,
        Lexer.State.step_start, if_neg hc]

/-- The collector goes on behind the block as if the document began there. -/
theorem collectStyleBlocks_block (css text : String) (tokens : List Token) :
    collectStyleBlocks ([⟨.tagOpen, "style"⟩, ⟨.content, css⟩, ⟨.tagClose, "style"⟩] ++
        ⟨.content, text⟩ :: tokens) =
      (collectStyleBlocks (⟨.content, text⟩ :: tokens)).withCss ⟨.content, css⟩ := by
  have hcloses : isOf .tagClose "style" ⟨.tagClose, "style"⟩ = true := by decide
  have hblock : IsBlock [⟨.tagOpen, "style"⟩, ⟨.content, css⟩, ⟨.tagClose, "style"⟩]
      (⟨.content, text⟩ :: tokens) :=
    @IsBlock.mk _ [⟨.content, css⟩] _ _ (by decide) (by simp [isOf])
      (.closed hcloses nofun (by simp [Token.isAttribute, Kind.isAttribute]))
  rw [collectStyleBlocks, hblock.collectFrom_outside, Collected.withCss_eq]
  simp [contentOf, hcloses, collectStyleBlocks]

/-! ## Inlining the block -/

theorem inject_content (sheet : Css.Stylesheet) (text : String) (tokens : List Token) :
    inject sheet (⟨.content, text⟩ :: tokens) = ⟨.content, text⟩ :: inject sheet tokens := by
  have htag : Token.isTag ⟨.content, text⟩ = false := rfl
  rw [inject_eq_tagwise, tagwise, htag, if_neg Bool.false_ne_true, inject_eq_tagwise]

/-- Tokens behind content are written as if the document began there. -/
theorem writeFrom_content (render : Token → String) (tokens : List Token) :
    writeFrom render (some .content) tokens = writeFrom render none tokens := by
  cases tokens with
  | nil => rfl
  | cons token tokens =>
    have hpunctuation (after : Option Kind) :
        punctuation (some .content) after token.kind = punctuation none after token.kind := by
      cases token.kind <;> rfl
    rw [writeFrom, hpunctuation, writeFrom]

theorem toText_empty_content (tokens : List Token) :
    toText (⟨.content, ""⟩ :: tokens) = toText tokens := by
  rw [toText, writeWith, writeFrom, writeFrom_content]
  simp [toText, writeWith, punctuation]

/-- The block is collected from a document that is read as content. -/
theorem inlineStyles_preamble_content {errorStyle : String} (hopen : '<' ∉ errorStyle.toList)
    (hclosed : '}' ∉ errorStyle.toList) (body : String) :
    inlineStyles (tokenize (preamble errorStyle ++ body)) =
      inject ((Css.Stylesheet.parse
          (collectStyleBlocks (tokens ⟨.content, ""⟩ body.toList)).css).behind (errorRule errorStyle))
        (collectStyleBlocks (tokens ⟨.content, ""⟩ body.toList)).tokens := by
  obtain ⟨word, rest, -, htokens⟩ := Mode.content_endsAt.exists_tokens body.toList
  have hcollected : collectStyleBlocks (tokenize (preamble errorStyle ++ body)) =
      (collectStyleBlocks (tokens ⟨.content, ""⟩ body.toList)).withCss
        ⟨.content, errorSheet errorStyle⟩ := by
    rw [tokenize_preamble hopen, htokens, collectStyleBlocks_block]
  have hcss (collected : Collected) :
      (collected.withCss ⟨.content, errorSheet errorStyle⟩).css =
        errorSheet errorStyle ++ collected.css := rfl
  rw [inlineStyles, hcollected, hcss, parse_errorSheet hclosed, Collected.tokens_withCss]

theorem inlineStyles_preamble {errorStyle : String} (hopen : '<' ∉ errorStyle.toList)
    (hclosed : '}' ∉ errorStyle.toList) (body : String) :
    let collected := collectStyleBlocks (tokenize body)
    let sheet := (Css.Stylesheet.parse collected.css).behind (errorRule errorStyle)
    inlineStyles (tokenize (preamble errorStyle ++ body)) = inject sheet collected.tokens ∨
      inlineStyles (tokenize (preamble errorStyle ++ body)) =
        ⟨.content, ""⟩ :: inject sheet collected.tokens := by
  intro collected sheet
  rw [inlineStyles_preamble_content hopen hclosed]
  -- a document that begins with a tag, or is empty, has an empty content in front now
  rcases tokens_content_eq body.toList with htokens | htokens
  · left
    rw [htokens]
    rfl
  · right
    have hcollected : collectStyleBlocks (⟨.content, ""⟩ :: tokens .initial body.toList) =
        collected.withToken ⟨.content, ""⟩ := rfl
    rw [htokens, hcollected, Collected.css_withToken, Collected.tokens_withToken, inject_content]

/-! ## Tags with and without the class -/

/-- The class names of an entry. -/
def classesOf (entry : Entry) : List String :=
  (partsOf entry.attributes).flatMap Part.classes

theorem restyledEntry_behind {rule : Css.Rule} {entry : Entry}
    (h : ∀ name ∈ classesOf entry, rule.selector.matchesName name = false)
    (sheet : Css.Stylesheet) : restyledEntry (sheet.behind rule) entry = restyledEntry sheet entry := by
  have hdeclarations : declarationsOfTag (sheet.behind rule) entry.head (classesOf entry) =
      declarationsOfTag sheet entry.head (classesOf entry) := by
    unfold declarationsOfTag
    rw [Css.declarationsFor_behind_of_not h]
  unfold classesOf at hdeclarations
  simp only [restyledEntry, hdeclarations]

/-- Inlining a document with the style block of failed expressions in front gives the text of the
document without it, restyled by its own sheet behind the rule of the block. That is what inlining
does to the document alone but for tags with a class that the rule is for, and the declarations for
such a class begin with those of the rule. -/
theorem toText_inlineStyles_preamble {errorStyle : String} (hopen : '<' ∉ errorStyle.toList)
    (hclosed : '}' ∉ errorStyle.toList) (body : String) :
    let rule := errorRule errorStyle
    let collected := collectStyleBlocks (tokenize body)
    let own := Css.Stylesheet.parse collected.css
    let sheet := own.behind rule
    toText (inlineStyles (tokenize (preamble errorStyle ++ body))) =
        toText (inject sheet collected.tokens) ∧
      attributesOf (inject sheet collected.tokens) =
        attributesOf (inlineStyles (tokenize body)) ∧
      entries (inject sheet collected.tokens) =
        (entries collected.tokens).map (restyledEntry sheet) ∧
      entries (inlineStyles (tokenize body)) =
        (entries collected.tokens).map (restyledEntry own) ∧
      (∀ entry, (∀ name ∈ classesOf entry, rule.selector.matchesName name = false) →
        restyledEntry sheet entry = restyledEntry own entry) ∧
      ∀ tag classes, Css.declarationsFor sheet tag classes =
        String.join (classes.map fun name =>
          (if rule.selector.matchesName name then rule.declarations else "") ++
            Css.declarationsForClass own name) ++ Css.declarationsFor own tag [] := by
  intro rule collected own sheet
  refine ⟨?_, ?_, entries_inject _ _, entries_inject _ _, fun entry h => restyledEntry_behind h own,
    Css.declarationsFor_behind rule own⟩
  · rcases inlineStyles_preamble hopen hclosed body with hinlined | hinlined
    · rw [hinlined]
    · rw [hinlined, toText_empty_content]
  · rw [inlineStyles, attributesOf_inject, attributesOf_inject]

/-- A document with a rule of its own and the mark of a failed expression. -/
def markedDocument : String :=
  "<style>p\x7bx:1\x7d</style><p>a</p><b class=\"jserror\">c</b>"

theorem toText_inlineStyles_preamble_markedDocument :
    toText (inlineStyles (tokenize (preamble "color:red" ++ markedDocument))) =
        "<p style=\"x:1;\" >a</p><b style=\"color:red;\" >c</b>" ∧
      restyledEntry ((Css.Stylesheet.parse (collectStyleBlocks (tokenize markedDocument)).css).behind
          (errorRule "color:red")) ⟨⟨.tagOpen, "p"⟩, []⟩ =
        restyledEntry (.parse (collectStyleBlocks (tokenize markedDocument)).css)
          ⟨⟨.tagOpen, "p"⟩, []⟩ := by
  have hopen : '<' ∉ "color:red".toList := by decide
  have hclosed : '}' ∉ "color:red".toList := by decide
  have h := toText_inlineStyles_preamble hopen hclosed markedDocument
  refine ⟨h.1.trans (by decide +kernel), h.2.2.2.2.1 _ ?_⟩
  have hclasses : classesOf ⟨⟨.tagOpen, "p"⟩, []⟩ = [] := rfl
  rw [hclasses]
  exact nofun

end MailTemplate.Interpolation
