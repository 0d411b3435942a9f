import Mathlib.Data.List.Flatten
import Mathlib.Data.List.Forall2
import MailTemplate.Proofs.Inlining.Checked
import MailTemplate.Proofs.Inlining.Entries

/-! # What injecting does not remove

From a tag only class attributes and blanks are ever removed (`spared`). All other tokens of a
document are there after injecting, in their order, and with the text that they had; declarations
may come in front of a value, and a blank behind a tag name (`Grows`). -/

namespace MailTemplate.Inlining

open Markup

def Part.isSpared (part : Part) : Bool :=
  !part.isClass && !part.isBlank

def sparedTag (tag : Token) (attributes : List Token) : List Token :=
  tag :: tokensOf ((partsOf attributes).filter Part.isSpared)

/-- A document without the class attributes and the blanks in its tags. -/
def spared (tokens : List Token) : List Token :=
  tagwise sparedTag tokens

/-- What injecting may do to a token that it keeps. -/
inductive Grows : Token → Token → Prop
  | refl (token : Token) : Grows token token
  | name (text : String) : Grows ⟨.tagOpen, text⟩ ⟨.tagOpen, text ++ " "⟩
  | value (declarations text : String) :
    Grows ⟨.attributeValue, text⟩ ⟨.attributeValue, declarations ++ text⟩

/-! ## Lists within lists -/

section

variable {α β : Type} {R : α → β → Prop}

theorem sublistForall₂_append_left {items : List α} {others : List β}
    (h : List.SublistForall₂ R items others) (before : List β) :
    List.SublistForall₂ R items (before ++ others) := by
  induction before with
  | nil => exact h
  | cons _ _ ih => exact .cons_right ih

theorem sublistForall₂_append {items more : List α} {others rest : List β}
    (h : List.SublistForall₂ R items others) (hmore : List.SublistForall₂ R more rest) :
    List.SublistForall₂ R (items ++ more) (others ++ rest) := by
  induction h with
  | nil => exact sublistForall₂_append_left hmore _
  | cons hitem _ ih => exact .cons hitem ih
  | cons_right _ ih => exact .cons_right ih

theorem sublistForall₂_of_sublist {items kept : List α} {others : List β}
    (hkept : kept.Sublist items) (h : List.SublistForall₂ R items others) :
    List.SublistForall₂ R kept others := by
  induction h generalizing kept with
  | nil =>
    rw [List.sublist_nil.mp hkept]
    exact .nil
  | cons hitem _ ih =>
    cases hkept with
    | cons _ hkept => exact .cons_right (ih hkept)
    | cons_cons _ hkept => exact .cons hitem (ih hkept)
  | cons_right _ ih => exact .cons_right (ih hkept)

end

instance : Std.Refl Grows := ⟨Grows.refl⟩

theorem grows_self (tokens : List Token) : List.SublistForall₂ Grows tokens tokens :=
  (List.Sublist.refl tokens).sublistForall₂

/-! ## One tag -/

theorem filter_dropWhile_isBlank (parts : List Part) :
    (parts.dropWhile Part.isBlank).filter Part.isSpared = parts.filter Part.isSpared := by
  induction parts with
  | nil => rfl
  | cons part parts ih =>
    by_cases h : part.isBlank = true
    · rw [List.dropWhile_cons_of_pos h, ih, List.filter_cons_of_neg (by simp [Part.isSpared, h])]
    · rw [List.dropWhile_cons_of_neg h]

theorem filter_rdropWhile_isBlank (parts : List Part) :
    (parts.rdropWhile Part.isBlank).filter Part.isSpared = parts.filter Part.isSpared := by
  rw [List.rdropWhile, List.filter_reverse, filter_dropWhile_isBlank, List.filter_reverse,
    List.reverse_reverse]

theorem filter_stripFrom (kept parts : List Part) :
    (stripFrom kept parts).filter Part.isSpared = (kept ++ parts).filter Part.isSpared := by
  have hgone {part : Part} (h : part.isClass = true) : ¬ part.isSpared = true := by
    simp [Part.isSpared, h]
  fun_induction stripFrom kept parts with
  | case1 kept => rw [List.append_nil]
  | case2 kept part parts hclass hend =>
    rw [filter_rdropWhile_isBlank, List.filter_append, List.filter_cons_of_neg (hgone hclass),
      ← filter_dropWhile_isBlank parts, hend, List.filter_nil, List.append_nil]
  | case3 kept part parts hclass hend ih =>
    rw [ih, List.filter_append, List.filter_append, filter_dropWhile_isBlank,
      List.filter_cons_of_neg (hgone hclass)]
  | case4 kept part parts hclass ih => rw [ih, List.append_assoc, List.singleton_append]

theorem filter_isSpared_sublist_strip (parts : List Part) :
    (tokensOf (parts.filter Part.isSpared)).Sublist (tokensOf (strip parts)) := by
  have hfilter := filter_stripFrom [] parts
  rw [List.nil_append] at hfilter
  rw [← hfilter]
  exact List.filter_sublist.flatMap Part.tokens

theorem grows_withDeclarations (declarations : String) (a : Attribute) :
    List.SublistForall₂ Grows a.tokens (a.withDeclarations declarations).tokens := by
  cases a with
  | bare name =>
    rw [Attribute.withDeclarations]
    split
    · exact grows_self _
    · exact .cons (.refl _) .nil
  | unassigned name sign =>
    rw [Attribute.withDeclarations]
    split
    · exact grows_self _
    · exact .cons (.refl _) (.cons (.refl _) .nil)
  | assigned name sign value =>
    exact .cons (.refl _) (.cons (.refl _) (.cons (.value declarations value) .nil))

theorem grows_completeFirst (declarations : String) (parts : List Part) :
    List.SublistForall₂ Grows (tokensOf parts) (tokensOf (completeFirst declarations parts)) := by
  induction parts with
  | nil => exact .nil
  | cons part parts ih =>
    cases part with
    | loose token => exact .cons (.refl token) ih
    | ofAttribute a =>
      rw [completeFirst]
      split
      · exact sublistForall₂_append (grows_withDeclarations declarations a) (grows_self _)
      · exact sublistForall₂_append (grows_self _) ih

theorem grows_restyledParts (declarations : String) (parts : List Part) :
    List.SublistForall₂ Grows (tokensOf parts) (tokensOf (restyledParts declarations parts)) := by
  unfold restyledParts
  split
  · exact grows_completeFirst declarations parts
  · split
    · exact grows_self _
    · -- the new attribute has four tokens, which come first
      exact sublistForall₂_append_left (grows_self _) (styleGroup declarations)

theorem grows_restyledName (sheet : Css.Stylesheet) (tag : Token) (classes : List String)
    (parts : List Part) :
    Grows tag (restyledName (declarationsOfTag sheet tag classes) parts tag) := by
  obtain ⟨kind, text⟩ := tag
  by_cases hopen : kind = .tagOpen
  · subst hopen
    unfold restyledName separated
    split
    · exact .refl _
    · split
      · exact .refl _
      · split
        · exact .refl _
        · exact .name text
  · have hnone : declarationsOfTag sheet ⟨kind, text⟩ classes = "" := if_neg (by simpa using hopen)
    have hempty : "".isEmpty = true := rfl
    rw [hnone, restyledName, if_pos hempty, ite_self]
    exact .refl _

theorem grows_restyledTag (sheet : Css.Stylesheet) (tag : Token) (attributes : List Token) :
    List.SublistForall₂ Grows (sparedTag tag attributes) (restyledTag sheet tag attributes) :=
  .cons (grows_restyledName sheet tag _ _)
    (sublistForall₂_of_sublist (filter_isSpared_sublist_strip _) (grows_restyledParts _ _))

/-! ## Documents -/

theorem grows_tagwise {rewrite other : Token → List Token → List Token}
    (h : ∀ tag attributes, List.SublistForall₂ Grows (rewrite tag attributes) (other tag attributes))
    (tokens : List Token) :
    List.SublistForall₂ Grows (tagwise rewrite tokens) (tagwise other tokens) := by
  fun_induction tagwise rewrite tokens with
  | case1 => exact .nil
  | case2 token tokens htag ih =>
    rw [tagwise, if_pos htag]
    exact sublistForall₂_append (h token (attributesOf tokens)) ih
  | case3 token tokens htag ih =>
    rw [tagwise, if_neg htag]
    exact .cons (.refl token) ih

theorem grows_inject (sheet : Css.Stylesheet) (tokens : List Token) :
    List.SublistForall₂ Grows (spared tokens) (inject sheet tokens) := by
  rw [inject_eq_tagwise]
  exact grows_tagwise (grows_restyledTag sheet) tokens

/-- Whatever the tokens are, what a scan finds is safe to edit. So injecting never reads or edits
behind the end of the document, and it removes nothing but class attributes and blanks. -/
theorem inject_safe (sheet : Css.Stylesheet) (tokens : List Token) :
    (∀ span ∈ tagSpans tokens, SafeScan tokens span (scanAttributes tokens span)) ∧
      inject? sheet tokens = some (inject sheet tokens) ∧
      List.SublistForall₂ Grows (spared tokens) (inject sheet tokens) := by
  refine ⟨fun span hmem => ?_, inject?_eq sheet tokens, grows_inject sheet tokens⟩
  have hholds := holds_of_mem_tagSpans hmem
  exact safeScan hholds.lt hholds.le

/-- A paragraph with a bare `style` attribute and two class attributes behind it. -/
def classesAtEnd : List Token :=
  [⟨.tagOpen, "p "⟩, ⟨.attributeName, "style"⟩, ⟨.tagContinuation, " "⟩, ⟨.attributeName, "class"⟩,
    ⟨.attributeEquals, "="⟩, ⟨.attributeValue, "a"⟩, ⟨.tagContinuation, " "⟩,
    ⟨.attributeName, "class"⟩, ⟨.content, "text"⟩]

theorem inject_safe_classesAtEnd :
    scanAttributes classesAtEnd ⟨0, 8⟩ = ⟨["a"], [⟨2, 8⟩], some (.bare 1 false)⟩ ∧
      Outside ⟨0, 10⟩ [⟨4, 10⟩] 3 ∧
      inject? (.parse ".a\x7bx:1\x7d") classesAtEnd =
        some [⟨.tagOpen, "p "⟩, ⟨.attributeName, "style"⟩, ⟨.attributeEquals, "="⟩,
          ⟨.attributeValue, "x:1;"⟩, ⟨.content, "text"⟩] := by
  obtain ⟨hsafe, hchecked, -⟩ := inject_safe (.parse ".a\x7bx:1\x7d") classesAtEnd
  have hmem : ⟨0, 8⟩ ∈ tagSpans classesAtEnd := by decide
  have hscan : scanAttributes classesAtEnd ⟨0, 8⟩ = ⟨["a"], [⟨2, 8⟩], some (.bare 1 false)⟩ := by
    decide +kernel
  have hcompleted := (hsafe ⟨0, 8⟩ hmem).completed 1 false "x:1;" (by rw [hscan])
  rw [hscan] at hcompleted
  refine ⟨hscan, hcompleted.2 3 (by decide) (by decide), hchecked.trans ?_⟩
  decide +kernel

end MailTemplate.Inlining
