import MailTemplate.Css.Cascade
import MailTemplate.Proofs.Css.Pieces

/-! # A rule in front of a sheet

A tag gets the declarations for its classes, class by class, and those for its name behind them
(`declarationsFor_eq`). A class rule that is written in front of a sheet comes first in the
declarations for each class that it matches, and does nothing else (`declarationsForClass_behind`). -/

namespace MailTemplate.Css

/-- A sheet with one more rule for class names, before all others. -/
def Stylesheet.behind (rule : Rule) (sheet : Stylesheet) : Stylesheet :=
  { sheet with classes := rule :: sheet.classes }

/-- The declarations that a sheet has for a class name. -/
def declarationsForClass (sheet : Stylesheet) (name : String) : String :=
  String.join ((matching sheet.classes name).map Rule.declarations)

theorem declarationsForClass_behind (rule : Rule) (sheet : Stylesheet) (name : String) :
    declarationsForClass (sheet.behind rule) name =
      (if rule.selector.matchesName name then rule.declarations else "") ++
        declarationsForClass sheet name := by
  unfold declarationsForClass Stylesheet.behind matching
  rw [List.filter_cons]
  split
  · rw [List.map_cons, String.join_cons]
  · rw [String.empty_append]

theorem declarationsFor_eq (sheet : Stylesheet) (tag : String) (classes : List String) :
    declarationsFor sheet tag classes =
      String.join (classes.map (declarationsForClass sheet)) ++
        String.join ((matching sheet.elements tag).map Rule.declarations) := by
  have hclasses : String.join ((classes.flatMap (matching sheet.classes)).map Rule.declarations) =
      String.join (classes.map (declarationsForClass sheet)) := by
    induction classes with
    | nil => rfl
    | cons name classes ih =>
      rw [List.flatMap_cons, List.map_append, String.join_append, ih, List.map_cons,
        String.join_cons, declarationsForClass]
  rw [declarationsFor, rulesFor, List.map_append, String.join_append, hclasses]

theorem declarationsFor_behind (rule : Rule) (sheet : Stylesheet) (tag : String)
    (classes : List String) :
    declarationsFor (sheet.behind rule) tag classes =
      String.join (classes.map fun name =>
        (if rule.selector.matchesName name then rule.declarations else "") ++
          declarationsForClass sheet name) ++ declarationsFor sheet tag [] := by
  rw [declarationsFor_eq, funext (declarationsForClass_behind rule sheet), declarationsFor_eq sheet,
    List.map_nil, String.join_nil, String.empty_append]
  rfl

/-- A rule that matches none of the classes of a tag does not matter for it. -/
theorem declarationsFor_behind_of_not {rule : Rule} {classes : List String}
    (h : ∀ name ∈ classes, rule.selector.matchesName name = false) (sheet : Stylesheet)
    (tag : String) :
    declarationsFor (sheet.behind rule) tag classes = declarationsFor sheet tag classes := by
  have hclasses : classes.map (declarationsForClass (sheet.behind rule)) =
      classes.map (declarationsForClass sheet) :=
    List.map_congr_left fun name hname => by
      rw [declarationsForClass_behind, h name hname, if_neg Bool.false_ne_true, String.empty_append]
  rw [declarationsFor_eq, hclasses, declarationsFor_eq]
  rfl

/-! ## Reading the sheet -/

theorem rules_classRule {name block : List Char} (hopen : '{' ∉ name) (hname : '}' ∉ name)
    (hblock : '}' ∉ block) (hne : Text.trimChars name ≠ []) (rest : List Char) :
    Scan.rules .idle ('.' :: name ++ '{' :: block ++ '}' :: rest) =
      (.ofClass, ⟨⟨String.ofList (Text.trimChars name)⟩,
        normalizeDeclarations (String.ofList block)⟩) :: Scan.rules .idle rest := by
  have hclosed : '}' ∉ '.' :: name ++ '{' :: block := by
    simp [hname, hblock]
  have hopen' : '{' ∉ '.' :: name := List.not_mem_cons_of_ne_of_not_mem (by decide) hopen
  rw [Scan.rules_closed hclosed, ruleOfPiece_named (by decide) hopen', if_pos rfl, if_neg hne]
  rfl

/-- A class rule is read on its own, whatever sheet is behind it. -/
theorem parse_classRule {name block : String} (hopen : '{' ∉ name.toList)
    (hname : '}' ∉ name.toList) (hblock : '}' ∉ block.toList) (hne : Text.trim name ≠ "")
    (sheet : String) :
    Stylesheet.parse ("." ++ name ++ "\x7b" ++ block ++ "\x7d" ++ sheet) =
      (Stylesheet.parse sheet).behind ⟨⟨Text.trim name⟩, normalizeDeclarations block⟩ := by
  have htext : ("." ++ name ++ "\x7b" ++ block ++ "\x7d" ++ sheet).toList =
      '.' :: name.toList ++ '{' :: block.toList ++ '}' :: sheet.toList := by
    simp
  have hne' : Text.trimChars name.toList ≠ [] := fun hnil => hne (by rw [Text.trim, hnil])
  rw [Stylesheet.parse, htext, rules_classRule hopen hname hblock hne', String.ofList_toList,
    Stylesheet.parse]
  rfl

end MailTemplate.Css
