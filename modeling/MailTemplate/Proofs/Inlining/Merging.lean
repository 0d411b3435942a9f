import MailTemplate.Inlining.Inject
import MailTemplate.Proofs.Css.Characters
import MailTemplate.Proofs.Css.Declarations

/-! # Declarations of several rules in one attribute

The declarations of a sheet are put in front of those that a tag has. Each rule has the declarations
of its block in the sheet, normalized (`map_declarations_matching`), so nothing has to be put between
them: read back, the value has the declarations of each block and then its own ones
(`normalizeDeclarations_merged`). -/

namespace MailTemplate.Inlining

open Css

/-- The blocks of a sheet whose rules match a name. -/
def blocksFor (css : String) (subject : Subject) (name : String) : List String :=
  ((closedPieces css.toList).filter fun piece =>
    (ruleOfPiece? piece).any fun (owner, rule) =>
      owner == subject && rule.selector.matchesName name).map blockOf

theorem map_declarations_matching (css : String) (subject : Subject) (name : String) :
    (matching ((Stylesheet.parse css).rules subject) name).map Rule.declarations =
      (blocksFor css subject name).map normalizeDeclarations := by
  rw [Stylesheet.parse, rules_ofRules, Scan.rules_eq_pieces, blocksFor, matching]
  induction closedPieces css.toList with
  | nil => rfl
  | cons piece pieces ih =>
    cases hrule : ruleOfPiece? piece with
    | none => simpa [hrule] using ih
    | some found =>
      obtain ⟨owner, rule⟩ := found
      have hblock := declarations_of_ruleOfPiece hrule
      cases howner : owner == subject <;>
        cases hname : rule.selector.matchesName name <;>
          simpa [hrule, howner, hname, hblock] using ih

/-- The declarations for a tag are those of the blocks whose rules match, normalized block by block,
those for its classes first. In front of a value they stay what they are, and each of them stays
apart from the others and from those of the value, which come last. -/
theorem normalizeDeclarations_merged (css tag : String) (classes : List String) (value : String) :
    let sheet := Stylesheet.parse css
    let rules := (classes.flatMap fun name => sheet.classes.filter (·.selector.matchesName name)) ++
      sheet.elements.filter (·.selector.matchesName tag)
    let blocks := classes.flatMap (blocksFor css .ofClass) ++ blocksFor css .element tag
    let merged := declarationsFor sheet tag classes
    normalizeDeclarations (merged ++ value) = merged ++ normalizeDeclarations value ∧
      rules.map Rule.declarations = blocks.map normalizeDeclarations ∧
      merged = String.join (blocks.map normalizeDeclarations) ∧
      declarationsOf (withDeclarations merged ⟨.attributeValue, value⟩).text.toList =
        (blocks.flatMap fun block => declarationsOf block.toList) ++
          declarationsOf value.toList := by
  intro sheet rules blocks merged
  have hblocks : rules.map Rule.declarations = blocks.map normalizeDeclarations := by
    rw [List.map_append, List.map_append, List.map_flatMap, List.map_flatMap]
    exact congrArg₂ _ (List.flatMap_congr fun name _ => map_declarations_matching css .ofClass name)
      (map_declarations_matching css .element tag)
  have hjoin : merged = String.join (blocks.map normalizeDeclarations) := congrArg String.join hblocks
  have hall : ∀ declaration ∈ blocks.flatMap fun block => declarationsOf block.toList,
      IsDeclaration declaration := by
    intro declaration hmem
    obtain ⟨block, -, hmem⟩ := List.mem_flatMap.mp hmem
    exact isDeclaration_of_mem hmem
  have hmerged : merged.toList =
      written (blocks.flatMap fun block => declarationsOf block.toList) := by
    rw [hjoin, String.toList_join, List.flatMap_map, written, List.flatMap_assoc]
    exact List.flatMap_congr fun block _ => toList_normalizeDeclarations block
  have hread : declarationsOf (merged ++ value).toList =
      (blocks.flatMap fun block => declarationsOf block.toList) ++ declarationsOf value.toList := by
    rw [String.toList_append, hmerged, declarationsOf_written_append hall]
  refine ⟨?_, hblocks, hjoin, hread⟩
  apply String.toList_injective
  rw [toList_normalizeDeclarations, hread, String.toList_append, hmerged,
    toList_normalizeDeclarations, written, List.flatMap_append]
  rfl

end MailTemplate.Inlining
