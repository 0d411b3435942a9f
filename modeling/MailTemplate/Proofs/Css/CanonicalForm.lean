import MailTemplate.Proofs.Css.Declarations

/-! # The canonical form of declarations

A normalized text is a sequence of declarations that have nothing to be trimmed or flattened, each
with a semicolon behind it (`canonical_normalizeDeclarations`), and it is the texts of this form that
normalizing leaves alone (`normalizeDeclarations_of_canonical`). -/

namespace MailTemplate.Css

/-- A declaration that normalizing has nothing to do to. -/
structure Tidy (declaration : String) : Prop where
  ne_empty : declaration ≠ ""
  first : ∀ c ∈ declaration.toList.head?, Text.isBlank c = false
  last : ∀ c ∈ declaration.toList.getLast?, Text.isBlank c = false
  plain : ∀ c ∈ declaration.toList, c ≠ ';' ∧ c ≠ '\r' ∧ c ≠ '\n' ∧ c ≠ '\t'

/-- A text of tidy declarations with a semicolon behind each of them. -/
def Canonical (text : String) : Prop :=
  ∃ declarations : List String, (∀ declaration ∈ declarations, Tidy declaration) ∧
    text = String.join (declarations.map (· ++ ";"))

theorem tidy_iff {declaration : String} : Tidy declaration ↔ IsDeclaration declaration.toList := by
  constructor
  · intro h
    refine ⟨?_, Text.trimChars_eq_self_iff.mpr ⟨h.first, h.last⟩, h.plain⟩
    simpa using h.ne_empty
  · intro h
    obtain ⟨hfirst, hlast⟩ := Text.trimChars_eq_self_iff.mp h.trimmed
    refine ⟨?_, hfirst, hlast, h.plain⟩
    simpa using h.ne_nil

theorem toList_join_semicolons (declarations : List String) :
    (String.join (declarations.map (· ++ ";"))).toList =
      written (declarations.map String.toList) := by
  rw [String.toList_join, List.flatMap_map, written, List.flatMap_map]
  exact List.flatMap_congr fun declaration _ => String.toList_append

theorem canonical_iff {text : String} :
    Canonical text ↔ ∃ declarations : List (List Char),
      (∀ declaration ∈ declarations, IsDeclaration declaration) ∧
        text.toList = written declarations := by
  constructor
  · rintro ⟨declarations, htidy, rfl⟩
    refine ⟨declarations.map String.toList, ?_, toList_join_semicolons declarations⟩
    intro declaration hmem
    obtain ⟨text, htext, rfl⟩ := List.mem_map.mp hmem
    exact tidy_iff.mp (htidy text htext)
  · rintro ⟨declarations, hall, htext⟩
    refine ⟨declarations.map String.ofList, ?_, ?_⟩
    · intro declaration hmem
      obtain ⟨cs, hcs, rfl⟩ := List.mem_map.mp hmem
      rw [tidy_iff, String.toList_ofList]
      exact hall cs hcs
    · apply String.toList_injective
      rw [toList_join_semicolons, htext, List.map_map]
      simp

theorem canonical_normalizeDeclarations (block : String) :
    Canonical (normalizeDeclarations block) :=
  canonical_iff.mpr
    ⟨_, fun _ hmem => isDeclaration_of_mem hmem, toList_normalizeDeclarations block⟩

theorem normalizeDeclarations_of_canonical {text : String} (h : Canonical text) :
    normalizeDeclarations text = text := by
  obtain ⟨declarations, hall, htext⟩ := canonical_iff.mp h
  have hread := declarationsOf_written_append hall []
  have hnone : declarationsOf [] = [] := rfl
  rw [List.append_nil, hnone, List.append_nil] at hread
  apply String.toList_injective
  rw [toList_normalizeDeclarations, htext, hread]

theorem normalizeDeclarations_append_end (first second : String) :
    normalizeDeclarations (first ++ ";" ++ second) =
      normalizeDeclarations first ++ normalizeDeclarations second := by
  have hcut : (first ++ ";" ++ second).toList = first.toList ++ ';' :: second.toList := by simp
  apply String.toList_injective
  rw [toList_normalizeDeclarations, hcut, declarationsOf_append_end, String.toList_append,
    toList_normalizeDeclarations, toList_normalizeDeclarations, written, List.flatMap_append]
  rfl

/-- Normalizing puts every text into the canonical form and leaves the texts in this form alone, and
no others. Texts with a semicolon between them are normalized each on its own. -/
theorem normalizeDeclarations_projection :
    (∀ block, Canonical (normalizeDeclarations block)) ∧
      (∀ text, normalizeDeclarations text = text ↔ Canonical text) ∧
      (∀ block, normalizeDeclarations (normalizeDeclarations block) = normalizeDeclarations block) ∧
      ∀ first second, normalizeDeclarations (first ++ ";" ++ second) =
        normalizeDeclarations first ++ normalizeDeclarations second := by
  refine ⟨canonical_normalizeDeclarations, fun text => ⟨fun h => ?_, ?_⟩,
    normalizeDeclarations_normalizeDeclarations, normalizeDeclarations_append_end⟩
  · rw [← h]
    exact canonical_normalizeDeclarations text
  · exact normalizeDeclarations_of_canonical

end MailTemplate.Css
