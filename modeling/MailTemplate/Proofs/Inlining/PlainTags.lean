import MailTemplate.Proofs.Css.Characters
import MailTemplate.Proofs.Inlining.Injected
import MailTemplate.Proofs.Markup.Plain

/-! # Plain white space in inlined documents

The collector and the injector make up no white space but a space. So inlining a plain document gives
a plain one (`plain_inlineStyles`). -/

namespace MailTemplate.Inlining

open Markup

/-! ## Style blocks -/

theorem plain_collectFrom {tokens : List Token} (h : Plain tokens) (position : Position) :
    Plain (collectFrom position tokens).tokens ∧
      PlainBlanks (collectFrom position tokens).css.toList := by
  induction tokens generalizing position with
  | nil => simp [collectFrom, Plain, PlainBlanks]
  | cons token tokens ih =>
    obtain ⟨htoken, htokens⟩ := plain_cons.mp h
    rcases collectFrom_cons position token tokens with
      ⟨hkept, -, -⟩ | ⟨-, next, -, hdropped | hdropped⟩
    · rw [hkept]
      exact ⟨plain_cons.mpr ⟨htoken, (ih htokens .outside).1⟩, (ih htokens .outside).2⟩
    · rw [hdropped]
      exact ih htokens next
    · obtain ⟨hrest, hcss⟩ := ih htokens next
      rw [hdropped, Collected.tokens_withCss]
      refine ⟨hrest, ?_⟩
      unfold Collected.withCss
      split
      · simp only [String.toList_append]
        exact htoken.append hcss
      · exact hcss

/-! ## Declarations -/

theorem keptBy_plain {declarations : String} (h : PlainBlanks declarations.toList) :
    KeptBy declarations fun token => PlainBlanks token.text.toList where
  separated tag htag := by
    rw [String.toList_append]
    exact htag.append (by decide)
  name := by decide
  sign := by decide
  value := h
  extended value hvalue := by
    rw [String.toList_append]
    exact h.append hvalue
  blank := by decide

theorem plain_inlineStyles {tokens : List Token} (h : Plain tokens) :
    Plain (inlineStyles tokens) := by
  obtain ⟨htokens, hcss⟩ := plain_collectFrom h .outside
  refine forall_inject htokens fun entry _ _ => keptBy_plain ?_
  exact forall_declarationsOfTag (P := fun c => Text.isBlank c = true → Text.isTagBlank c = true)
    (by decide) (by decide) hcss _ _

end MailTemplate.Inlining
