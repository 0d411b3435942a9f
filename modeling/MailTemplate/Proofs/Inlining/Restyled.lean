import Mathlib.Data.List.Forall2
import MailTemplate.Proofs.Inlining.GroupedTags

/-! # What injecting does to a document

Injecting keeps the outline of a document and changes the attributes of its tags only: the `class`
attributes go, and an opening tag gets the declarations for its name and its class names in its
first `style` attribute (`inject_restyled`). All other attributes stay, in their order. -/

namespace MailTemplate.Inlining

open Markup

namespace Attribute

/-- The attributes of a tag with declarations in the first `style` attribute. -/
def completeFirst (declarations : String) : List Attribute → List Attribute
  | [] => []
  | a :: attributes =>
    if a.isStyle then a.withDeclarations declarations :: attributes
    else a :: completeFirst declarations attributes

/-- The attributes of a tag with declarations; a tag without a `style` attribute gets one in front
of the others if there is something to declare. -/
def restyle (declarations : String) (attributes : List Attribute) : List Attribute :=
  if attributes.any isStyle then completeFirst declarations attributes
  else if declarations.isEmpty then attributes
  else assigned "style" "=" declarations :: attributes

def withoutClasses (attributes : List Attribute) : List Attribute :=
  attributes.filter fun a => !a.isClass

end Attribute

theorem any_isStyle_parts (parts : List Part) :
    parts.any Part.isStyle = (parts.filterMap Part.attribute?).any Attribute.isStyle := by
  induction parts with
  | nil => rfl
  | cons part parts ih => cases part <;> simp [List.filterMap_cons, Part.isStyle, Part.attribute?, ih]

theorem attribute?_eq_none_of_isBlank {part : Part} (h : part.isBlank = true) :
    part.attribute? = none := by
  cases part with
  | ofAttribute a => cases h
  | loose token => rfl

theorem filterMap_dropWhile_isBlank (parts : List Part) :
    (parts.dropWhile Part.isBlank).filterMap Part.attribute? =
      parts.filterMap Part.attribute? := by
  induction parts with
  | nil => rfl
  | cons part parts ih =>
    by_cases h : part.isBlank = true
    · rw [List.dropWhile_cons_of_pos h, ih,
        List.filterMap_cons_none (attribute?_eq_none_of_isBlank h)]
    · rw [List.dropWhile_cons_of_neg h]

theorem filterMap_rdropWhile_isBlank (parts : List Part) :
    (parts.rdropWhile Part.isBlank).filterMap Part.attribute? =
      parts.filterMap Part.attribute? := by
  rw [List.rdropWhile, List.filterMap_reverse, filterMap_dropWhile_isBlank,
    List.filterMap_reverse, List.reverse_reverse]

/-- Blanks are no attributes, so only class attributes are missed in what is left of a tag. -/
theorem filterMap_stripFrom (kept parts : List Part) :
    (stripFrom kept parts).filterMap Part.attribute? =
      kept.filterMap Part.attribute? ++
        Attribute.withoutClasses (parts.filterMap Part.attribute?) := by
  fun_induction stripFrom kept parts with
  | case1 kept => simp [Attribute.withoutClasses]
  | case2 kept part parts hclass hend =>
    have hparts : parts.filterMap Part.attribute? = [] := by
      rw [← filterMap_dropWhile_isBlank, hend, List.filterMap_nil]
    cases part with
    | loose token => cases hclass
    | ofAttribute a =>
      have ha : a.isClass = true := hclass
      simp [filterMap_rdropWhile_isBlank, Part.attribute?, Attribute.withoutClasses, hparts, ha]
  | case3 kept part parts hclass hend ih =>
    cases part with
    | loose token => cases hclass
    | ofAttribute a =>
      have ha : a.isClass = true := hclass
      rw [ih, filterMap_dropWhile_isBlank]
      simp [Part.attribute?, Attribute.withoutClasses, ha]
  | case4 kept part parts hclass ih =>
    cases part with
    | loose token => simp [ih, List.filterMap_cons, Part.attribute?]
    | ofAttribute a =>
      have ha : ¬ a.isClass = true := hclass
      simp [ih, Part.attribute?, Attribute.withoutClasses, ha]

theorem filterMap_completeFirst (declarations : String) (parts : List Part) :
    (completeFirst declarations parts).filterMap Part.attribute? =
      Attribute.completeFirst declarations (parts.filterMap Part.attribute?) := by
  induction parts with
  | nil => rfl
  | cons part parts ih =>
    cases part with
    | loose token => simpa [completeFirst, List.filterMap_cons, Part.attribute?] using ih
    | ofAttribute a =>
      by_cases ha : a.isStyle = true
      · simp [completeFirst, Part.attribute?, Attribute.completeFirst, ha]
      · simp [completeFirst, Part.attribute?, Attribute.completeFirst, ha, ih]

theorem filterMap_restyledParts (declarations : String) (parts : List Part) :
    (restyledParts declarations parts).filterMap Part.attribute? =
      Attribute.restyle declarations (parts.filterMap Part.attribute?) := by
  unfold restyledParts Attribute.restyle
  rw [any_isStyle_parts]
  split
  · exact filterMap_completeFirst declarations parts
  · split
    · rfl
    · simp [List.filterMap_cons, Part.attribute?]

theorem Attribute.completeFirst_empty (attributes : List Attribute) :
    completeFirst "" attributes = attributes := by
  induction attributes with
  | nil => rfl
  | cons a attributes ih =>
    have ha : a.withDeclarations "" = a := by cases a <;> simp [withDeclarations]
    simp [completeFirst, ha, ih]

theorem text_restyledName (declarations : String) (parts : List Part) (tag : Token) :
    (restyledName declarations parts tag).text = tag.text ∨
      declarations ≠ "" ∧ (restyledName declarations parts tag).text = tag.text ++ " " := by
  unfold restyledName separated
  split
  · exact .inl rfl
  · split
    · exact .inl rfl
    · next hd =>
      split
      · exact .inl rfl
      · exact .inr ⟨fun h => hd (by rw [h]; rfl), rfl⟩

end MailTemplate.Inlining
