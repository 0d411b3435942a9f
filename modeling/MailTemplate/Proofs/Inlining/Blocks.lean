import MailTemplate.Inlining.StyleBlocks

/-! # Style blocks, token by token

What the collector does with one token: it keeps the token and is outside of all blocks, or it drops
the token and is in a block (`collectFrom_cons`). Outside of a block it goes on keeping tokens up to
the next opening `style` tag (`collectFrom_kept`). -/

namespace MailTemplate.Inlining

open Markup

/-- Whether a token is of this kind and this is its name, which is its text in lower case without the
white space around it. -/
def isOf (kind : Kind) (name : String) (token : Token) : Bool :=
  token.kind == kind && Text.lowercaseAscii (Text.trim token.text) == name

theorem opensBlock_eq (token : Token) : opensBlock token = isOf .tagOpen "style" token := rfl

theorem closesBlock_eq (token : Token) : closesBlock token = isOf .tagClose "style" token := rfl

namespace Collected

variable (token : Token) (collected : Collected)

@[simp] theorem tokens_withToken : (collected.withToken token).tokens = token :: collected.tokens :=
  rfl

@[simp] theorem css_withToken : (collected.withToken token).css = collected.css := rfl

@[simp] theorem tokens_withCss : (collected.withCss token).tokens = collected.tokens := by
  unfold withCss
  split <;> rfl

end Collected

theorem kind_of_isOf {kind : Kind} {name : String} {token : Token}
    (h : isOf kind name token = true) : token.kind = kind :=
  beq_iff_eq.mp (Bool.and_eq_true_iff.mp h).1

theorem not_opens_of_isAttribute {token : Token} (h : token.isAttribute = true) :
    isOf .tagOpen "style" token = false := by
  refine Bool.eq_false_iff.mpr ?_
  intro hopens
  rw [Token.isAttribute, kind_of_isOf hopens] at h
  cases h

/-- Behind a block a tag or content is kept; in a block, and where one begins, all is dropped. -/
theorem collectFrom_cons (position : Position) (token : Token) (tokens : List Token) :
    (collectFrom position (token :: tokens) = (collectFrom .outside tokens).withToken token ∧
        isOf .tagOpen "style" token = false ∧ (position = .outside ∨ token.isAttribute = false)) ∨
      ((position = .outside → isOf .tagOpen "style" token = true) ∧ ∃ next, next ≠ .outside ∧
        (collectFrom position (token :: tokens) = collectFrom next tokens ∨
          collectFrom position (token :: tokens) = (collectFrom next tokens).withCss token)) := by
  by_cases hopens : isOf .tagOpen "style" token = true
  · refine .inr ⟨fun _ => hopens, .inBlock, by simp, .inl ?_⟩
    cases position <;> exact if_pos hopens
  · have hopens' : isOf .tagOpen "style" token = false := by simpa using hopens
    cases position with
    | outside => exact .inl ⟨if_neg hopens, hopens', .inl rfl⟩
    | inBlock =>
      refine .inr ⟨by simp, ?_⟩
      have hstep : collectFrom .inBlock (token :: tokens) =
          if isOf .tagClose "style" token = true then collectFrom .inClosingTag tokens
          else (collectFrom .inBlock tokens).withCss token := if_neg hopens
      split at hstep
      · exact ⟨.inClosingTag, by simp, .inl hstep⟩
      · exact ⟨.inBlock, by simp, .inr hstep⟩
    | inClosingTag =>
      have hstep : collectFrom .inClosingTag (token :: tokens) =
          if token.isAttribute = true then collectFrom .inClosingTag tokens
          else (collectFrom .outside tokens).withToken token := if_neg hopens
      split at hstep
      · exact .inr ⟨by simp, .inClosingTag, by simp, .inl hstep⟩
      · next hattribute => exact .inl ⟨hstep, hopens', .inr (by simpa using hattribute)⟩

/-- The same for the tokens that are kept. -/
theorem tokens_collectFrom_cons (position : Position) (token : Token) (tokens : List Token) :
    ((collectFrom position (token :: tokens)).tokens =
          token :: (collectFrom .outside tokens).tokens ∧
        isOf .tagOpen "style" token = false ∧ (position = .outside ∨ token.isAttribute = false)) ∨
      ((position = .outside → isOf .tagOpen "style" token = true) ∧ ∃ next, next ≠ .outside ∧
        (collectFrom position (token :: tokens)).tokens = (collectFrom next tokens).tokens) := by
  rcases collectFrom_cons position token tokens with
    ⟨hkept, hopens, hplace⟩ | ⟨hopens, next, hnext, hdropped⟩
  · exact .inl ⟨by rw [hkept, Collected.tokens_withToken], hopens, hplace⟩
  · refine .inr ⟨hopens, next, hnext, ?_⟩
    rcases hdropped with hdropped | hdropped
    · rw [hdropped]
    · rw [hdropped, Collected.tokens_withCss]

/-- Outside of a block everything is kept. -/
theorem collectFrom_kept {kept : List Token}
    (h : ∀ token ∈ kept, isOf .tagOpen "style" token = false) (rest : List Token) :
    collectFrom .outside (kept ++ rest) =
      { collectFrom .outside rest with tokens := kept ++ (collectFrom .outside rest).tokens } := by
  induction kept with
  | nil => rfl
  | cons token kept ih =>
    obtain ⟨htoken, hkept⟩ := List.forall_mem_cons.mp h
    rw [List.cons_append, collectFrom, opensBlock_eq, htoken, if_neg Bool.false_ne_true, ih hkept]
    rfl

end MailTemplate.Inlining
