import MailTemplate.Css.Declarations
import MailTemplate.Proofs.Text.Split
import MailTemplate.Proofs.Text.Trim

/-! # Normalized declarations

A block is cut into declarations that are trimmed and not empty (`isDeclaration_of_mem`), and each is
written with a semicolon behind it. So what is written is read back, whatever text stands behind it
(`declarationsOf_written_append`), and a normalized text stays as it is. -/

namespace MailTemplate.Css

/-- A single declaration in its normal form. -/
structure IsDeclaration (declaration : List Char) : Prop where
  ne_nil : declaration ≠ []
  trimmed : Text.trimChars declaration = declaration
  plain : ∀ c ∈ declaration, c ≠ ';' ∧ c ≠ '\r' ∧ c ≠ '\n' ∧ c ≠ '\t'

/-- Declarations as a block has them. -/
def written (declarations : List (List Char)) : List Char :=
  declarations.flatMap (· ++ [';'])

theorem toList_normalizeDeclarations (block : String) :
    (normalizeDeclarations block).toList = written (declarationsOf block.toList) :=
  String.toList_ofList

theorem flattenBlank_of_plain {c : Char} (h : c ≠ '\r' ∧ c ≠ '\n' ∧ c ≠ '\t') :
    flattenBlank c = c := by
  obtain ⟨hreturn, hline, htab⟩ := h
  simp [flattenBlank, hreturn, hline, htab]

theorem plain_flattenBlank (c : Char) :
    flattenBlank c ≠ '\r' ∧ flattenBlank c ≠ '\n' ∧ flattenBlank c ≠ '\t' := by
  unfold flattenBlank
  split
  · decide
  · next hc =>
    simp only [Bool.or_eq_true, beq_iff_eq, not_or] at hc
    exact ⟨hc.1.1, hc.1.2, hc.2⟩

theorem isDeclaration_of_mem {block declaration : List Char} (h : declaration ∈ declarationsOf block) :
    IsDeclaration declaration := by
  obtain ⟨hmem, hne⟩ := List.mem_filter.mp h
  obtain ⟨piece, hpiece, rfl⟩ := List.mem_map.mp hmem
  refine ⟨by simpa using hne, Text.trimChars_trimChars piece, ?_⟩
  intro c hc
  obtain ⟨hblock, hend⟩ := Text.of_mem_split hpiece ((Text.trimChars_sublist piece).mem hc)
  obtain ⟨d, -, rfl⟩ := List.mem_map.mp hblock
  exact ⟨by simpa using hend, plain_flattenBlank d⟩

theorem declarationsOf_append_end (block rest : List Char) :
    declarationsOf (block ++ ';' :: rest) = declarationsOf block ++ declarationsOf rest := by
  have hend : flattenBlank ';' = ';' := flattenBlank_of_plain (by decide)
  rw [declarationsOf, List.map_append, List.map_cons, hend, Text.split_append_separator rfl,
    List.map_append, List.filter_append]
  rfl

theorem IsDeclaration.declarationsOf_eq {declaration : List Char} (h : IsDeclaration declaration) :
    declarationsOf declaration = [declaration] := by
  have hflat : declaration.map flattenBlank = declaration := by
    refine (List.map_congr_left fun c hc => ?_).trans (List.map_id _)
    exact flattenBlank_of_plain (h.plain c hc).2
  have hsplit : Text.split (· == ';') declaration = [declaration] :=
    Text.split_of_none fun c hc => by simpa using (h.plain c hc).1
  have hne : declaration.isEmpty = false := by simpa using h.ne_nil
  rw [declarationsOf, hflat, hsplit, List.map_singleton, h.trimmed]
  simp [hne]

theorem declarationsOf_written_append {declarations : List (List Char)}
    (h : ∀ declaration ∈ declarations, IsDeclaration declaration) (rest : List Char) :
    declarationsOf (written declarations ++ rest) = declarations ++ declarationsOf rest := by
  induction declarations with
  | nil => rfl
  | cons declaration declarations ih =>
    obtain ⟨hfirst, hrest⟩ := List.forall_mem_cons.mp h
    have hcons : written (declaration :: declarations) ++ rest =
        declaration ++ ';' :: (written declarations ++ rest) := by
      simp [written]
    rw [hcons, declarationsOf_append_end, hfirst.declarationsOf_eq, ih hrest]
    rfl

/-- Normalizing changes how declarations are written and not what they are. -/
theorem declarationsOf_normalizeDeclarations (block : String) :
    declarationsOf (normalizeDeclarations block).toList = declarationsOf block.toList := by
  have hall : ∀ declaration ∈ declarationsOf block.toList, IsDeclaration declaration := by
    intro declaration hmem
    exact isDeclaration_of_mem hmem
  have hnone : declarationsOf [] = [] := rfl
  rw [toList_normalizeDeclarations, ← List.append_nil (written _),
    declarationsOf_written_append hall, hnone, List.append_nil]

theorem normalizeDeclarations_normalizeDeclarations (block : String) :
    normalizeDeclarations (normalizeDeclarations block) = normalizeDeclarations block := by
  rw [normalizeDeclarations, declarationsOf_normalizeDeclarations, normalizeDeclarations]

end MailTemplate.Css
