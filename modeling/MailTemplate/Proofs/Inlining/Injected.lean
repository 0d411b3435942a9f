import MailTemplate.Proofs.Css.Characters
import MailTemplate.Proofs.Inlining.Restyled

/-! # Injected tokens

Injecting copies tokens, puts declarations in front of values, gives `style` attributes to tags, and
puts a blank behind their names. What all of this keeps holds of every token of a document after
injecting if it did before (`forall_inject`). On the other hand no declarations are lost: those of a
tag are in one of its values (`exists_value_inject`). -/

namespace MailTemplate.Inlining

open Markup

/-- What holds of the tokens that a tag with these declarations gets, and is not lost where they are
put into a token. -/
structure KeptBy (declarations : String) (Q : Token → Prop) : Prop where
  separated : ∀ tag : Token, Q tag → Q { tag with text := tag.text ++ " " }
  name : Q ⟨.attributeName, "style"⟩
  sign : Q ⟨.attributeEquals, "="⟩
  value : Q ⟨.attributeValue, declarations⟩
  extended : ∀ value, Q ⟨.attributeValue, value⟩ → Q ⟨.attributeValue, declarations ++ value⟩
  blank : Q ⟨.tagContinuation, " "⟩

theorem forall_tokensOf {Q : Token → Prop} {parts : List Part} :
    (∀ token ∈ tokensOf parts, Q token) ↔ ∀ part ∈ parts, ∀ token ∈ part.tokens, Q token :=
  List.forall_mem_flatMap

namespace KeptBy

variable {Q : Token → Prop} {declarations : String}

theorem withDeclarations (h : KeptBy declarations Q) {a : Attribute}
    (ha : ∀ token ∈ a.tokens, Q token) :
    ∀ token ∈ (a.withDeclarations declarations).tokens, Q token := by
  cases a with
  | bare name =>
    simp only [Attribute.withDeclarations]
    split
    · exact ha
    · simpa [Attribute.tokens, h.sign, h.value] using ha
  | unassigned name sign =>
    simp only [Attribute.withDeclarations]
    split
    · exact ha
    · simpa [Attribute.tokens, h.value] using ha
  | assigned name sign value =>
    simp only [Attribute.tokens, List.forall_mem_cons] at ha
    obtain ⟨hname, hsign, hvalue, -⟩ := ha
    simp [Attribute.withDeclarations, Attribute.tokens, hname, hsign, h.extended value hvalue]

theorem completeFirst (h : KeptBy declarations Q) {parts : List Part}
    (hall : ∀ part ∈ parts, ∀ token ∈ part.tokens, Q token) :
    ∀ part ∈ completeFirst declarations parts, ∀ token ∈ part.tokens, Q token := by
  induction parts with
  | nil => simp [Inlining.completeFirst]
  | cons part parts ih =>
    obtain ⟨hpart, hparts⟩ := List.forall_mem_cons.mp hall
    cases part with
    | loose token => exact List.forall_mem_cons.mpr ⟨hpart, ih hparts⟩
    | ofAttribute a =>
      rw [Inlining.completeFirst]
      cases a.isStyle with
      | true => exact List.forall_mem_cons.mpr ⟨h.withDeclarations hpart, hparts⟩
      | false => exact List.forall_mem_cons.mpr ⟨hpart, ih hparts⟩

theorem restyledParts (h : KeptBy declarations Q) {parts : List Part}
    (hparts : ∀ part ∈ parts, ∀ token ∈ part.tokens, Q token) :
    ∀ part ∈ restyledParts declarations (strip parts), ∀ token ∈ part.tokens, Q token := by
  have hstrip : ∀ part ∈ strip parts, ∀ token ∈ part.tokens, Q token :=
    fun part hmem => hparts part ((stripFrom_sublist [] parts).mem hmem)
  unfold Inlining.restyledParts
  split
  · exact h.completeFirst hstrip
  · split
    · exact hstrip
    · refine List.forall_mem_cons.mpr ⟨?_, List.forall_mem_cons.mpr ⟨?_, hstrip⟩⟩
      · simp [Part.tokens, Attribute.tokens, h.name, h.sign, h.value]
      · simp [Part.tokens, h.blank]

theorem restyledName (h : KeptBy declarations Q) {tag : Token} (htag : Q tag)
    (parts : List Part) : Q (restyledName declarations parts tag) := by
  have hseparated : Q (Inlining.separated tag) := by
    unfold Inlining.separated
    split
    · exact htag
    · exact h.separated tag htag
  unfold Inlining.restyledName
  split
  · exact htag
  · split
    · exact htag
    · exact hseparated

theorem restyledTag {sheet : Css.Stylesheet} {tag : Token} {attributes : List Token}
    (h : KeptBy (declarationsOfTag sheet tag ((partsOf attributes).flatMap Part.classes)) Q)
    (htag : Q tag) (hattributes : ∀ token ∈ attributes, Q token) :
    ∀ token ∈ restyledTag sheet tag attributes, Q token := by
  rw [← tokensOf_partsOf attributes, forall_tokensOf] at hattributes
  exact List.forall_mem_cons.mpr
    ⟨h.restyledName htag _, forall_tokensOf.mpr (h.restyledParts hattributes)⟩

end KeptBy

/-! ## Documents -/

/-- The declarations that a tag of a document gets. -/
def declarationsOfEntry (sheet : Css.Stylesheet) (entry : Entry) : String :=
  declarationsOfTag sheet entry.head ((partsOf entry.attributes).flatMap Part.classes)

/-- A document after injecting, as what it was before its first entry and its restyled entries. -/
theorem forall_inject_iff {Q : Token → Prop} {sheet : Css.Stylesheet} {tokens : List Token} :
    (∀ token ∈ inject sheet tokens, Q token) ↔
      (∀ token ∈ attributesOf tokens, Q token) ∧
        ∀ entry ∈ entries tokens, ∀ token ∈ (restyledEntry sheet entry).tokens, Q token := by
  rw [inject_eq_tagwise, tagwise_eq_entries, List.forall_mem_append, List.forall_mem_flatMap,
    List.forall_mem_map]

theorem forall_iff_entries {Q : Token → Prop} {tokens : List Token} :
    (∀ token ∈ tokens, Q token) ↔
      (∀ token ∈ attributesOf tokens, Q token) ∧
        ∀ entry ∈ entries tokens, ∀ token ∈ entry.tokens, Q token := by
  conv_lhs => rw [← attributesOf_append_entries tokens]
  rw [List.forall_mem_append, List.forall_mem_flatMap]

theorem forall_inject {Q : Token → Prop} {sheet : Css.Stylesheet} {tokens : List Token}
    (h : ∀ token ∈ tokens, Q token)
    (hkept : ∀ entry ∈ entries tokens, entry.head.isTag = true →
      KeptBy (declarationsOfEntry sheet entry) Q) :
    ∀ token ∈ inject sheet tokens, Q token := by
  obtain ⟨hbefore, hentries⟩ := forall_iff_entries.mp h
  refine forall_inject_iff.mpr ⟨hbefore, fun entry hmem => ?_⟩
  rw [tokens_restyledEntry]
  obtain ⟨hhead, hattributes⟩ := List.forall_mem_cons.mp (hentries entry hmem)
  split
  · next htag => exact (hkept entry hmem htag).restyledTag hhead hattributes
  · exact hentries entry hmem

/-! ## Declarations in values -/

theorem forall_declarationsOfTag {P : Char → Prop} (hspace : P ' ') (hend : P ';') {css : String}
    (h : ∀ c ∈ css.toList, P c) (tag : Token) (classes : List String) :
    ∀ c ∈ (declarationsOfTag (.parse css) tag classes).toList, P c := by
  unfold declarationsOfTag
  split
  · exact Css.forall_declarationsFor hspace hend h _ classes
  · simp

theorem exists_value_withDeclarations {declarations : String} (h : declarations ≠ "")
    (a : Attribute) :
    ∃ more, ⟨.attributeValue, declarations ++ more⟩ ∈ (a.withDeclarations declarations).tokens := by
  cases a with
  | bare name => exact ⟨"", by simp [Attribute.withDeclarations, Attribute.tokens, h]⟩
  | unassigned name sign => exact ⟨"", by simp [Attribute.withDeclarations, Attribute.tokens, h]⟩
  | assigned name sign value => exact ⟨value, by simp [Attribute.withDeclarations, Attribute.tokens]⟩

theorem exists_value_completeFirst {declarations : String} (h : declarations ≠ "")
    {parts : List Part} (hstyle : parts.any Part.isStyle = true) :
    ∃ more, ⟨.attributeValue, declarations ++ more⟩ ∈ tokensOf (completeFirst declarations parts) := by
  induction parts with
  | nil => cases hstyle
  | cons part parts ih =>
    cases part with
    | loose token =>
      obtain ⟨more, hmore⟩ := ih hstyle
      exact ⟨more, List.mem_cons_of_mem _ hmore⟩
    | ofAttribute a =>
      rw [completeFirst]
      cases ha : a.isStyle with
      | true =>
        obtain ⟨more, hmore⟩ := exists_value_withDeclarations h a
        exact ⟨more, List.mem_append_left _ hmore⟩
      | false =>
        have hrest : parts.any Part.isStyle = true := by
          simpa [Part.isStyle, Part.attribute?, ha] using hstyle
        obtain ⟨more, hmore⟩ := ih hrest
        exact ⟨more, List.mem_append_right _ hmore⟩

theorem exists_value_restyledParts {declarations : String} (h : declarations ≠ "")
    (parts : List Part) :
    ∃ more, ⟨.attributeValue, declarations ++ more⟩ ∈ tokensOf (restyledParts declarations parts) := by
  unfold restyledParts
  by_cases hstyle : parts.any Part.isStyle = true
  · rw [if_pos hstyle]
    exact exists_value_completeFirst h hstyle
  · rw [if_neg hstyle, if_neg (by simpa using h)]
    exact ⟨"", by simp [Part.tokens, Attribute.tokens]⟩

/-- Declarations of a tag are at the start of one of its values. -/
theorem exists_value_inject {sheet : Css.Stylesheet} {tokens : List Token} {entry : Entry}
    (hmem : entry ∈ entries tokens) (htag : entry.head.isTag = true)
    (h : declarationsOfEntry sheet entry ≠ "") :
    ∃ more, ⟨.attributeValue, declarationsOfEntry sheet entry ++ more⟩ ∈ inject sheet tokens := by
  obtain ⟨more, hmore⟩ := exists_value_restyledParts h (strip (partsOf entry.attributes))
  have hall := (forall_inject_iff (Q := (· ∈ inject sheet tokens))).mp fun _ ht => ht
  refine ⟨more, hall.2 entry hmem _ ?_⟩
  rw [tokens_restyledEntry, if_pos htag]
  exact List.mem_cons_of_mem _ hmore

end MailTemplate.Inlining
