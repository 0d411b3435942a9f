import MailTemplate.Css.Cascade
import MailTemplate.Proofs.Css.Pieces

/-! # At-rules

Rules are not nested in a sheet: each closing brace ends whatever is open. So the first rule in the
block of an at-rule becomes its declarations, and its name matches no tag and no class. But the
rules behind the first one are rules like those outside of the block (`rules_atRule`). -/

namespace MailTemplate.Css

/-- A text without braces. -/
def Flat (text : String) : Prop :=
  '{' ∉ text.toList ∧ '}' ∉ text.toList

instance (text : String) : Decidable (Flat text) :=
  inferInstanceAs (Decidable (_ ∧ _))

/-- A rule as it is written. -/
structure WrittenRule where
  selector : String
  declarations : String
  flat_selector : Flat selector
  flat_declarations : Flat declarations

/-- What stands before the closing brace of a rule. -/
def WrittenRule.text (rule : WrittenRule) : String :=
  rule.selector ++ "\x7b" ++ rule.declarations

/-- The text of some rules. -/
def textOf (rules : List WrittenRule) : String :=
  String.join (rules.map fun rule => rule.text ++ "\x7d")

/-- An at-rule with a block of rules. -/
structure AtRule where
  head : String
  inner : List WrittenRule
  flat_head : Flat head

namespace AtRule

def text (rule : AtRule) : String :=
  "@" ++ rule.head ++ "\x7b" ++ textOf rule.inner ++ "\x7d"

/-- What stands before the first closing brace of the block. -/
def ownBlock (rule : AtRule) : String :=
  match rule.inner with
  | [] => ""
  | first :: _ => first.text

/-- The rule that an at-rule itself is read as. -/
def ownRule (rule : AtRule) : Rule :=
  ⟨⟨Text.trim ("@" ++ rule.head)⟩, normalizeDeclarations rule.ownBlock⟩

end AtRule

/-- The characters of plain names of tags and classes. -/
def isPlainChar (c : Char) : Bool :=
  c.isAlphanum || c == '-'

/-! ## Names with an at sign -/

theorem toNat_lt_of_isPlainChar {c : Char} (h : isPlainChar c = true) : c.toNat < 128 := by
  rcases Bool.or_eq_true_iff.mp h with halphanum | hhyphen
  · have hlast : c.val ≤ 'z'.val := by
      rcases Bool.or_eq_true_iff.mp halphanum with halpha | hdigit
      · rcases Bool.or_eq_true_iff.mp halpha with hupper | hlower
        · have hbound : c.val ≤ 'Z'.val := (of_decide_eq_true hupper).2
          exact UInt32.le_trans hbound (by decide)
        · exact of_decide_eq_true (Bool.and_eq_true_iff.mp hlower).2
      · have hbound : c.val ≤ '9'.val := of_decide_eq_true (Bool.and_eq_true_iff.mp hdigit).2
        exact UInt32.le_trans hbound (by decide)
    exact Nat.lt_of_le_of_lt hlast (by decide)
  · rw [beq_iff_eq.mp hhyphen]
    decide

theorem atSign_notMem_lowercase {c : Char} (h : isPlainChar c = true) :
    '@' ∉ Text.lowercase c := by
  have hascii : ∀ n < 128, isPlainChar (Char.ofNat n) = true →
      '@' ∉ Text.lowercase (Char.ofNat n) := by
    decide +kernel
  have hc := hascii c.toNat (toNat_lt_of_isPlainChar h)
  rw [Char.ofNat_toNat] at hc
  exact hc h

theorem Pattern.accepts_literal_cons {c : Char} {text : List Char} (h : c ∉ text)
    (parts : List Part) : accepts (.literal c :: parts) text = false := by
  cases text with
  | nil => simp [accepts, advance, acceptsEmpty]
  | cons d text =>
    have hc : c ≠ d := (List.ne_and_not_mem_of_not_mem_cons h).1
    simp [accepts, advance, hc]

/-- A selector that starts with an at sign matches no plain name. -/
theorem matchesName_atSign {source name : String} {rest : List Char}
    (hsource : source.toList = '@' :: rest) (hname : ∀ c ∈ name.toList, isPlainChar c = true) :
    Selector.matchesName ⟨source⟩ name = false := by
  have hlower : Text.lowercase '@' = ['@'] := by decide +kernel
  have hnotMem : '@' ∉ name.toList.flatMap Text.lowercase := by
    intro hmem
    obtain ⟨c, hc, hat⟩ := List.mem_flatMap.mp hmem
    exact atSign_notMem_lowercase (hname c hc) hat
  rw [Selector.matchesName, Selector.matchesWith, Selector.parts, hsource, List.flatMap_cons, hlower]
  exact Pattern.accepts_literal_cons hnotMem _

theorem trim_atSign (head : String) :
    Text.trim ("@" ++ head) = String.ofList (Text.trimChars ('@' :: head.toList)) := by
  rw [Text.trim, String.toList_append]
  rfl

theorem matchesName_ownRule (rule : AtRule) {name : String}
    (hname : ∀ c ∈ name.toList, isPlainChar c = true) :
    rule.ownRule.selector.matchesName name = false := by
  obtain ⟨rest, hrest⟩ := Text.exists_trimChars_cons (show Text.isBlank '@' = false by decide)
    rule.head.toList
  have hsource : (Text.trim ("@" ++ rule.head)).toList = '@' :: rest := by
    rw [trim_atSign, hrest, String.toList_ofList]
  exact matchesName_atSign hsource hname

/-! ## Reading an at-rule -/

theorem closingBrace_notMem_text (rule : WrittenRule) : '}' ∉ rule.text.toList := by
  have hselector := rule.flat_selector.2
  have hdeclarations := rule.flat_declarations.2
  simp [WrittenRule.text, hselector, hdeclarations]

theorem toList_textOf_cons (rule : WrittenRule) (rules : List WrittenRule) :
    (textOf (rule :: rules)).toList = rule.text.toList ++ '}' :: (textOf rules).toList := by
  simp [textOf]

/-- Rules leave nothing open. -/
theorem after_textOf (rules : List WrittenRule) :
    Scan.after .idle (textOf rules).toList = .idle := by
  induction rules with
  | nil => rfl
  | cons rule rules ih =>
    rw [toList_textOf_cons, Scan.after_append, Scan.after_cons, Scan.step_closingBrace, ih]

/-- The brace that closes the block ends no rule. -/
theorem rules_closingBrace (rules : List WrittenRule) :
    Scan.rules .idle ((textOf rules).toList ++ ['}']) = Scan.rules .idle (textOf rules).toList := by
  rw [Scan.rules_append, after_textOf]
  exact List.append_nil _

theorem closingBrace_notMem_ownBlock (rule : AtRule) : '}' ∉ rule.ownBlock.toList := by
  cases h : rule.inner with
  | nil => simp [AtRule.ownBlock, h]
  | cons first inner => simpa [AtRule.ownBlock, h] using closingBrace_notMem_text first

/-- The first closing brace ends what the at-rule itself is read as. -/
theorem exists_toList_text (rule : AtRule) :
    ∃ rest, rule.text.toList =
        ('@' :: rule.head.toList ++ '{' :: rule.ownBlock.toList) ++ '}' :: rest ∧
      Scan.rules .idle rest = Scan.rules .idle (textOf rule.inner.tail).toList := by
  cases h : rule.inner with
  | nil => exact ⟨[], by simp [AtRule.text, AtRule.ownBlock, textOf, h], rfl⟩
  | cons first inner =>
    refine ⟨(textOf inner).toList ++ ['}'], ?_, rules_closingBrace inner⟩
    simp [AtRule.text, AtRule.ownBlock, toList_textOf_cons, h]

theorem rules_text (rule : AtRule) :
    Scan.rules .idle rule.text.toList =
      (.element, rule.ownRule) :: Scan.rules .idle (textOf rule.inner.tail).toList := by
  obtain ⟨rest, htext, hrest⟩ := exists_toList_text rule
  have hclosed : '}' ∉ '@' :: rule.head.toList ++ '{' :: rule.ownBlock.toList := by
    have hhead := rule.flat_head.2
    have hblock := closingBrace_notMem_ownBlock rule
    simp [hhead, hblock]
  have hopen : '{' ∉ '@' :: rule.head.toList :=
    List.not_mem_cons_of_ne_of_not_mem (by decide) rule.flat_head.1
  rw [htext, Scan.rules_closed hclosed, ruleOfPiece_named (by decide) hopen, if_neg (by decide),
    hrest, String.ofList_toList, ← trim_atSign]
  rfl

theorem rules_parse_text (rule : AtRule) (subject : Subject) :
    (Stylesheet.parse rule.text).rules subject =
      (if subject = .element then [rule.ownRule] else []) ++
        (Stylesheet.parse (textOf rule.inner.tail)).rules subject := by
  rw [Stylesheet.parse, rules_ofRules, rules_text, Stylesheet.parse, rules_ofRules]
  cases subject <;> rfl

theorem matching_parse_text (rule : AtRule) (subject : Subject) {name : String}
    (hname : ∀ c ∈ name.toList, isPlainChar c = true) :
    matching ((Stylesheet.parse rule.text).rules subject) name =
      matching ((Stylesheet.parse (textOf rule.inner.tail)).rules subject) name := by
  have hown : matching (if subject = .element then [rule.ownRule] else []) name = [] := by
    have hmatch := matchesName_ownRule rule hname
    split <;> simp [matching, hmatch]
  rw [rules_parse_text, matching, List.filter_append]
  exact congrArg (· ++ _) hown

/-- An at-rule is one rule, whose name matches no plain name. A block of one rule or none has no
other rules; the rules behind the first one are read as if they stood outside of the block. -/
theorem rules_atRule (rule : AtRule) :
    (∀ subject, (Stylesheet.parse rule.text).rules subject =
      (if subject = .element then [rule.ownRule] else []) ++
        (Stylesheet.parse (textOf rule.inner.tail)).rules subject) ∧
    ∀ name : String, (∀ c ∈ name.toList, isPlainChar c = true) → ∀ subject,
      matching ((Stylesheet.parse rule.text).rules subject) name =
          matching ((Stylesheet.parse (textOf rule.inner.tail)).rules subject) name ∧
        (rule.inner.length ≤ 1 → matching ((Stylesheet.parse rule.text).rules subject) name = []) := by
  refine ⟨rules_parse_text rule, fun name hname subject => ?_⟩
  refine ⟨matching_parse_text rule subject hname, fun hlength => ?_⟩
  have htail : rule.inner.tail = [] := by
    rw [← List.length_eq_zero_iff, List.length_tail]
    omega
  rw [matching_parse_text rule subject hname, htail]
  cases subject <;> rfl

/-- A rule for printing. -/
def linkRule : AtRule where
  head := "media print"
  inner := [⟨"a", "x:1", by decide, by decide⟩]
  flat_head := by decide

/-- A rule for printing with another one behind it. -/
def printRules : AtRule where
  head := "media print"
  inner := [⟨"a", "x:1", by decide, by decide⟩, ⟨"p", "color:red", by decide, by decide⟩]
  flat_head := by decide

theorem rules_atRule_printRules :
    matching ((Stylesheet.parse linkRule.text).rules .element) "a" = [] ∧
      matching ((Stylesheet.parse printRules.text).rules .element) "p" =
        matching ((Stylesheet.parse "p\x7bcolor:red\x7d").rules .element) "p" := by
  have hlink : ∀ c ∈ "a".toList, isPlainChar c = true := List.all_eq_true.mp (by decide)
  have hparagraph : ∀ c ∈ "p".toList, isPlainChar c = true := List.all_eq_true.mp (by decide)
  exact ⟨((rules_atRule linkRule).2 "a" hlink .element).2 (Nat.le_refl 1),
    ((rules_atRule printRules).2 "p" hparagraph .element).1⟩

/-- The second rule for printing is one for every paragraph. -/
theorem not_matching_printRules :
    ¬ ∀ (rule : AtRule) (name : String), name ≠ "" → (∀ c ∈ name.toList, isPlainChar c = true) →
      ∀ subject, matching ((Stylesheet.parse rule.text).rules subject) name = [] := by
  intro h
  have hplain : ∀ c ∈ "p".toList, isPlainChar c = true := List.all_eq_true.mp (by decide)
  have hnil := h printRules "p" (by decide) hplain .element
  have hrule : matching ((Stylesheet.parse printRules.text).rules .element) "p" =
      [⟨⟨"p"⟩, "color:red;"⟩] := by
    decide +kernel
  rw [hnil] at hrule
  cases hrule

end MailTemplate.Css
