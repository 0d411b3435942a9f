import MailTemplate.Proofs.Inlining.Injected
import MailTemplate.Proofs.Inlining.LegibleTags
import MailTemplate.Proofs.Inlining.Outline
import MailTemplate.Proofs.Markup.TokenText

/-! # Quotes in attribute values

A value is written between quotes as it is, so one that has a quote is cut short when it is read back
(`tokens_value_eq_iff`). The lexer makes no such values, but inlining can: declarations are copied
from a sheet into values with their quotes. The values of an inlined document have no quotes exactly
if the declarations for its tags have none (`unquoted_inlineStyles`). -/

namespace MailTemplate.Inlining

open Markup Lexer

/-- No value of a stream has a quote. -/
def Unquoted (tokens : List Token) : Prop :=
  ∀ token ∈ tokens, token.kind = .attributeValue → '"' ∉ token.text.toList

instance (tokens : List Token) : Decidable (Unquoted tokens) :=
  inferInstanceAs (Decidable
    (∀ token ∈ tokens, token.kind = .attributeValue → '"' ∉ token.text.toList))

/-! ## Values that are read -/

theorem unquoted_of_legible {mode : Mode} {tokens : List Token} (h : Legible mode tokens) :
    Unquoted tokens := by
  induction tokens generalizing mode with
  | nil => simp [Unquoted]
  | cons token tokens ih =>
    obtain ⟨kind, text⟩ := token
    refine List.forall_mem_cons.mpr ⟨?_, ih h.2⟩
    rintro rfl
    exact h.1.2

/-- A value that is written behind its `=` is read back exactly if it has no quote. -/
theorem tokens_value_eq_iff (value : String) :
    Lexer.tokens ⟨.attributeEquals, "="⟩ (textIn true ⟨.attributeValue, value⟩) =
        [⟨.attributeEquals, "="⟩, ⟨.attributeValue, value⟩, ⟨.tagContinuation, ""⟩] ↔
      '"' ∉ value.toList := by
  constructor
  · intro h
    have hopens : Opens .attributeName ⟨.attributeEquals, "="⟩ :=
      (opens_attribute .attributeEquals rfl rfl).mpr ⟨rfl, rfl⟩
    have hlegible := hopens.legible_tokens (by simp) (textIn true ⟨.attributeValue, value⟩)
    rw [h] at hlegible
    exact unquoted_of_legible hlegible ⟨.attributeValue, value⟩ (by simp) rfl
  · intro h
    have hopen : State.step ⟨.attributeEquals, "="⟩ '"' =
        (⟨.attributeValue, ""⟩, some ⟨.attributeEquals, "="⟩) := by
      simp [State.step_attributeEquals]
    have hclose : State.step ⟨.attributeValue, "" ++ String.ofList value.toList⟩ '"' =
        (⟨.tagContinuation, ""⟩, some ⟨.attributeValue, value⟩) := by
      simp [State.step_attributeValue]
    have hread := (((Reads.value h "").trans (.single hclose)).cons hopen).tokens []
    rw [List.append_nil] at hread
    exact hread

/-! ## Values that are injected -/

theorem keptBy_unquoted {declarations : String} (h : '"' ∉ declarations.toList) :
    KeptBy declarations fun token =>
      token.kind = .attributeValue → '"' ∉ token.text.toList where
  separated tag htag hkind := by simpa using htag hkind
  name := nofun
  sign := nofun
  value _ := h
  extended value hvalue _ := by simpa using ⟨h, hvalue rfl⟩
  blank := nofun

theorem unquoted_inject_iff {sheet : Css.Stylesheet} {tokens : List Token} (h : Unquoted tokens) :
    Unquoted (inject sheet tokens) ↔
      ∀ entry ∈ entries tokens, entry.head.isTag = true →
        '"' ∉ (declarationsOfEntry sheet entry).toList := by
  constructor
  · intro hunquoted entry hmem htag hquote
    have hne : declarationsOfEntry sheet entry ≠ "" := by
      intro hempty
      simp [hempty] at hquote
    obtain ⟨more, hvalue⟩ := exists_value_inject hmem htag hne
    refine hunquoted _ hvalue rfl ?_
    rw [String.toList_append]
    exact List.mem_append_left _ hquote
  · exact fun hquote => forall_inject h fun entry hmem htag => keptBy_unquoted (hquote entry hmem htag)

theorem quote_notMem_declarationsOfTag {css : String} (h : '"' ∉ css.toList) (tag : Token)
    (classes : List String) : '"' ∉ (declarationsOfTag (.parse css) tag classes).toList := by
  have hcss : ∀ c ∈ css.toList, c ≠ '"' := fun c hc => ne_of_mem_of_not_mem hc h
  intro hmem
  exact forall_declarationsOfTag (P := (· ≠ '"')) (by decide) (by decide) hcss tag classes _ hmem rfl

/-! ## Inlined documents -/

/-- The lexer makes values without quotes. Inlining makes no others exactly if the declarations for
all tags have no quotes, as those of a sheet without quotes; and the values without quotes are those
that are read back as they are written. -/
theorem unquoted_inlineStyles (text : String) :
    Unquoted (tokenize text) ∧
      (Unquoted (inlineStyles (tokenize text)) ↔
        ∀ entry ∈ entries (collectStyleBlocks (tokenize text)).tokens, entry.head.isTag = true →
          '"' ∉ (declarationsOfEntry (.parse (collectStyleBlocks (tokenize text)).css)
            entry).toList) ∧
      ('"' ∉ (collectStyleBlocks (tokenize text)).css.toList →
        Unquoted (inlineStyles (tokenize text))) ∧
      ∀ value,
        Lexer.tokens ⟨.attributeEquals, "="⟩ (textIn true ⟨.attributeValue, value⟩) =
            [⟨.attributeEquals, "="⟩, ⟨.attributeValue, value⟩, ⟨.tagContinuation, ""⟩] ↔
          '"' ∉ value.toList := by
  have hcollected : Unquoted (collectStyleBlocks (tokenize text)).tokens :=
    unquoted_of_legible (legible_collectStyleBlocks (legible_tokenize text))
  have hiff := @unquoted_inject_iff (.parse (collectStyleBlocks (tokenize text)).css) _ hcollected
  refine ⟨unquoted_of_legible (legible_tokenize text), hiff, fun hquote => ?_,
    tokens_value_eq_iff⟩
  exact hiff.mpr fun _ _ _ => quote_notMem_declarationsOfTag hquote _ _

/-- A rule for all paragraphs, and a paragraph with a style of its own. -/
def serifParagraph : String :=
  "<style>p\x7bfont-family:serif\x7d</style><p style=\"margin:0;\">x</p>"

theorem unquoted_inlineStyles_serifParagraph :
    '"' ∉ (collectStyleBlocks (tokenize serifParagraph)).css.toList ∧
      Unquoted (inlineStyles (tokenize serifParagraph)) := by
  have hquote : '"' ∉ (collectStyleBlocks (tokenize serifParagraph)).css.toList := by
    decide +kernel
  exact ⟨hquote, (unquoted_inlineStyles serifParagraph).2.2.1 hquote⟩

/-- A rule with a quoted font name. -/
def quotedParagraph : String :=
  "<style>p\x7bfont-family:\"Arial\"\x7d</style><p>x</p>"

/-- The font name ends the value of the paragraph, and is read as an attribute of its own. -/
theorem not_unquoted_inlineStyles_quotedParagraph :
    ¬ Unquoted (inlineStyles (tokenize quotedParagraph)) ∧
      (outline (tokenize (toText (inlineStyles (tokenize quotedParagraph))))).tags.map
          TagOutline.attributes =
        [[.assigned "style" "=" "font-family:", .bare "Arial\";\""], []] := by
  decide +kernel

end MailTemplate.Inlining
