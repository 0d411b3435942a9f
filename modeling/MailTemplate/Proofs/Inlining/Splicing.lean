import MailTemplate.Proofs.Inlining.Tagwise

/-! # Documents in two parts

A document can be cut in front of any tag and any content, and injecting does to each part what it
does to the part alone (`inject_append`). So the positions in one tag stay true whatever is put into
the tags around it or taken out of them. -/

namespace MailTemplate.Inlining

open Markup

/-- No tag goes on into these tokens: there are none, or a tag or content comes first. -/
def StandsApart (tokens : List Token) : Prop :=
  ∀ token ∈ tokens.head?, token.kind = .tagOpen ∨ token.kind = .tagClose ∨ token.kind = .content

theorem StandsApart.isAttribute_eq_false {token : Token} {tokens : List Token}
    (h : StandsApart (token :: tokens)) : token.isAttribute = false := by
  rcases h token rfl with hkind | hkind | hkind <;> rw [Token.isAttribute, hkind] <;> rfl

section

variable {behind : List Token}

theorem attributesOf_append (h : StandsApart behind) (tokens : List Token) :
    attributesOf (tokens ++ behind) = attributesOf tokens := by
  induction tokens with
  | nil =>
    cases behind with
    | nil => rfl
    | cons token behind => exact attributesOf_cons_of_neg (by simp [h.isAttribute_eq_false]) behind
  | cons token tokens ih =>
    rw [List.cons_append]
    by_cases htoken : token.isAttribute = true
    · rw [attributesOf_cons_of_pos htoken, ih, attributesOf_cons_of_pos htoken]
    · rw [attributesOf_cons_of_neg htoken, attributesOf_cons_of_neg htoken]

theorem dropWhile_isAttribute_append (h : StandsApart behind) (tokens : List Token) :
    (tokens ++ behind).dropWhile Token.isAttribute =
      tokens.dropWhile Token.isAttribute ++ behind := by
  have hcut (list : List Token) :
      attributesOf list ++ list.dropWhile Token.isAttribute = list := List.takeWhile_append_dropWhile
  have hwhole := hcut (tokens ++ behind)
  rw [attributesOf_append h] at hwhole
  have htokens : attributesOf tokens ++ (tokens.dropWhile Token.isAttribute ++ behind) =
      tokens ++ behind := by
    rw [← List.append_assoc, hcut]
  exact List.append_cancel_left (hwhole.trans htokens.symm)

theorem tagwise_append (rewrite : Token → List Token → List Token) (h : StandsApart behind)
    (tokens : List Token) :
    tagwise rewrite (tokens ++ behind) = tagwise rewrite tokens ++ tagwise rewrite behind := by
  fun_induction tagwise rewrite tokens with
  | case1 => rfl
  | case2 token tokens htag ih =>
    rw [List.cons_append, tagwise, if_pos htag, attributesOf_append h,
      dropWhile_isAttribute_append h, ih, List.append_assoc]
  | case3 token tokens htag ih =>
    rw [List.cons_append, tagwise, if_neg htag, ih, List.cons_append]

end

/-- Rewriting depends on what is done to a tag with its own attribute tokens only. -/
theorem tagwise_congr {rewrite other : Token → List Token → List Token}
    (h : ∀ tag attributes, tag.isTag = true → (∀ token ∈ attributes, token.isAttribute = true) →
      rewrite tag attributes = other tag attributes) (tokens : List Token) :
    tagwise rewrite tokens = tagwise other tokens := by
  fun_induction tagwise rewrite tokens with
  | case1 => rw [tagwise]
  | case2 token tokens htag ih =>
    have hattributes : ∀ other ∈ attributesOf tokens, other.isAttribute = true :=
      fun _ hmem => List.mem_takeWhile_imp hmem
    rw [tagwise, if_pos htag, h token _ htag hattributes, ih]
  | case3 token tokens htag ih => rw [tagwise, if_neg htag, ih]

theorem inject_tag (sheet : Css.Stylesheet) {tag : Token} {attributes : List Token}
    (htag : tag.isTag = true) (h : ∀ token ∈ attributes, token.isAttribute = true) :
    inject sheet (tag :: attributes) = restyledTag sheet tag attributes := by
  have hall : attributesOf attributes = attributes := List.takeWhile_eq_self_iff.mpr h
  have hnone : attributes.dropWhile Token.isAttribute = [] := List.dropWhile_eq_nil_iff.mpr h
  rw [inject_eq_tagwise, tagwise, if_pos htag, hall, hnone, tagwise, List.append_nil]

/-- Injecting into a document in two parts is injecting into each of them. So a document is
rewritten tag by tag, each tag as if it were alone, and all other tokens stay where they are. -/
theorem inject_append (sheet : Css.Stylesheet) :
    (∀ before behind, StandsApart behind →
      inject sheet (before ++ behind) = inject sheet before ++ inject sheet behind) ∧
    ∀ tokens, inject sheet tokens =
      tagwise (fun tag attributes => inject sheet (tag :: attributes)) tokens := by
  constructor
  · intro before behind h
    rw [inject_eq_tagwise, inject_eq_tagwise, inject_eq_tagwise, tagwise_append _ h]
  · intro tokens
    rw [inject_eq_tagwise]
    refine tagwise_congr ?_ tokens
    intro tag attributes htag hattributes
    exact (inject_tag sheet htag hattributes).symm

/-- A value in no tag, and a paragraph that ends with its class. -/
def classParagraph : List Token :=
  [⟨.attributeValue, "v"⟩, ⟨.tagOpen, "p"⟩, ⟨.attributeName, "class"⟩, ⟨.attributeEquals, "="⟩,
    ⟨.attributeValue, "note"⟩]

theorem inject_append_classParagraph :
    StandsApart [⟨.tagOpen, "p"⟩] ∧
      inject (.parse ".note\x7bx:1\x7dp\x7by:2\x7d") (classParagraph ++ [⟨.tagOpen, "p"⟩]) =
        ⟨.attributeValue, "v"⟩ :: ⟨.tagOpen, "p "⟩ :: styleGroup "x:1;y:2;" ++
          ⟨.tagOpen, "p "⟩ :: styleGroup "y:2;" := by
  have happart : StandsApart [⟨.tagOpen, "p"⟩] := by
    intro token hmem
    obtain rfl := Option.mem_some.mp hmem
    exact .inl rfl
  refine ⟨happart, ?_⟩
  rw [(inject_append _).1 classParagraph _ happart]
  decide +kernel

end MailTemplate.Inlining
