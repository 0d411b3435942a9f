import MailTemplate.Css.Cascade
import MailTemplate.Proofs.Css.Pieces

/-! # The characters of declarations

The declarations of a rule are cut out of its block in the sheet (`declarations_of_ruleOfPiece`), and
only spaces and semicolons are put between them. So whatever holds of those two and of every
character of a sheet holds of the declarations that a tag gets from it (`forall_declarationsFor`). -/

namespace MailTemplate.Css

section

variable {P : Char → Prop}

theorem forall_normalizeDeclarations (hspace : P ' ') (hend : P ';') {block : String}
    (h : ∀ c ∈ block.toList, P c) : ∀ c ∈ (normalizeDeclarations block).toList, P c := by
  intro c hc
  rw [normalizeDeclarations, String.toList_ofList] at hc
  obtain ⟨declaration, hdeclaration, hc⟩ := List.mem_flatMap.mp hc
  rcases List.mem_append.mp hc with hc | hc
  · obtain ⟨piece, hpiece, rfl⟩ := List.mem_map.mp (List.mem_filter.mp hdeclaration).1
    have hmem := Text.of_mem_split hpiece ((Text.trimChars_sublist piece).mem hc)
    obtain ⟨d, hd, rfl⟩ := List.mem_map.mp hmem.1
    unfold flattenBlank
    split
    · exact hspace
    · exact h d hd
  · rw [List.mem_singleton.mp hc]
    exact hend

/-- What stands behind the first brace of a piece. -/
def blockOf (piece : List Char) : String :=
  String.ofList (piece.dropWhile (· != '{')).tail

theorem dropWhile_trimStart (piece : List Char) :
    (Text.trimStart piece).dropWhile (· != '{') = piece.dropWhile (· != '{') := by
  obtain ⟨before, hpiece, hblank⟩ := Text.exists_blank_before piece
  conv_rhs => rw [hpiece]
  refine (List.dropWhile_append_of_pos fun c hc => bne_iff_ne.mpr ?_).symm
  rintro rfl
  cases hblank _ hc

/-- The declarations of a rule are those of the block behind its name. -/
theorem declarations_of_ruleOfPiece {piece : List Char} {subject : Subject} {rule : Rule}
    (h : ruleOfPiece? piece = some (subject, rule)) :
    rule.declarations = normalizeDeclarations (blockOf piece) := by
  unfold ruleOfPiece? at h
  rw [blockOf, ← dropWhile_trimStart]
  simp only at h
  split at h
  · cases h
  · cases h
  · next body _ hbody =>
    rw [hbody]
    split at h <;> cases h
    rfl
  · next body hbody _ _ =>
    rw [hbody]
    cases h
    rfl

/-- Every rule of a sheet has the declarations of a block in it. -/
theorem exists_block_of_mem_rules {sheet : String} {subject : Subject} {rule : Rule}
    (h : rule ∈ (Stylesheet.parse sheet).rules subject) :
    ∃ block : String, (∀ c ∈ block.toList, c ∈ sheet.toList) ∧
      rule.declarations = normalizeDeclarations block := by
  rw [Stylesheet.parse, rules_ofRules, Scan.rules_eq_pieces] at h
  obtain ⟨⟨subject', rule'⟩, hmem, rfl⟩ := List.mem_map.mp h
  obtain ⟨piece, hpiece, hrule⟩ := List.mem_filterMap.mp (List.mem_filter.mp hmem).1
  refine ⟨blockOf piece, ?_, declarations_of_ruleOfPiece hrule⟩
  intro c hc
  rw [blockOf, String.toList_ofList] at hc
  have hpiece' : c ∈ piece := (List.dropWhile_sublist _).mem (List.mem_of_mem_tail hc)
  exact (Text.of_mem_split ((List.dropLast_sublist _).mem hpiece) hpiece').1

/-- The rules for a tag are rules of the sheet. -/
theorem exists_mem_rules {sheet : Stylesheet} {tag : String} {classes : List String} {rule : Rule}
    (h : rule ∈ rulesFor sheet tag classes) : ∃ subject, rule ∈ sheet.rules subject := by
  rcases List.mem_append.mp h with h | h
  · obtain ⟨name, -, h⟩ := List.mem_flatMap.mp h
    exact ⟨.ofClass, (List.mem_filter.mp h).1⟩
  · exact ⟨.element, (List.mem_filter.mp h).1⟩

theorem forall_declarationsFor (hspace : P ' ') (hend : P ';') {sheet : String}
    (h : ∀ c ∈ sheet.toList, P c) (tag : String) (classes : List String) :
    ∀ c ∈ (declarationsFor (.parse sheet) tag classes).toList, P c := by
  intro c hc
  rw [declarationsFor, String.toList_join] at hc
  obtain ⟨declarations, hdeclarations, hc⟩ := List.mem_flatMap.mp hc
  obtain ⟨rule, hrule, rfl⟩ := List.mem_map.mp hdeclarations
  obtain ⟨subject, hrule⟩ := exists_mem_rules hrule
  obtain ⟨block, hblock, heq⟩ := exists_block_of_mem_rules hrule
  rw [heq] at hc
  exact forall_normalizeDeclarations hspace hend (fun d hd => h d (hblock d hd)) c hc

end

end MailTemplate.Css
