import MailTemplate.Proofs.Inlining.LegibleTags
import MailTemplate.Proofs.Inlining.PlainTags
import MailTemplate.Proofs.Inlining.Rereading
import MailTemplate.Proofs.Inlining.Values

/-! # Reading back an inlined document

Inlining leaves streams that no text is read as: a tag without blanks between its attributes, a blank
at the end of a name with content right behind it, contents next to each other. They are legible all
the same, so the text of an inlined document is a document with the same tags, the same attributes
and the same content (`outline_toText_inlineStyles`). -/

namespace MailTemplate.Inlining

open Markup

/-- The text of an inlined document is read as this document, but for the white space at its two
ends. -/
theorem outline_toText_inlineStyles {text : String} (hplain : PlainBlanks text.toList)
    (hquote : '"' ∉ (collectStyleBlocks (tokenize text)).css.toList) :
    (outline (tokenize (toText (inlineStyles (tokenize text))))).trimmed =
      (outline (inlineStyles (tokenize text))).trimmed := by
  have htokens : Plain (tokenize text) := plain_tokenize hplain
  have hlegible : Legible .start (inlineStyles (tokenize text)) :=
    legible_inject (legible_collectStyleBlocks (legible_tokenize text))
      (plain_collectFrom htokens .outside).1 (quote_notMem_declarationsOfTag hquote)
  exact outline_toText hlegible (plainBlanks_writtenIn (plain_inlineStyles htokens) false)

/-- A paragraph that loses its class between two attributes, behind a style block that is taken out
of content. -/
def boxParagraph : String :=
  " a<style>.box\x7bcolor:red\x7d</style>b<p class=\"box\" id>c"

theorem outline_toText_inlineStyles_boxParagraph :
    PlainBlanks boxParagraph.toList ∧
      '"' ∉ (collectStyleBlocks (tokenize boxParagraph)).css.toList ∧
      (outline (tokenize (toText (inlineStyles (tokenize boxParagraph))))).trimmed =
        ⟨"ab".toList, [⟨.tagOpen, "p", [.assigned "style" "=" "color:red;", .bare "id"], ['c']⟩]⟩ := by
  have hplain : PlainBlanks boxParagraph.toList := by decide +kernel
  have hquote : '"' ∉ (collectStyleBlocks (tokenize boxParagraph)).css.toList := by decide +kernel
  refine ⟨hplain, hquote, ?_⟩
  rw [outline_toText_inlineStyles hplain hquote]
  decide +kernel

end MailTemplate.Inlining
