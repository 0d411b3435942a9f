import Mathlib.Data.List.DropRight
import MailTemplate.Css.Stylesheet
import MailTemplate.Proofs.Text.Split
import MailTemplate.Proofs.Text.Trim

/-! # A stylesheet in pieces

A stylesheet is read one character at a time, but each `}` ends whatever is open
(`step_closingBrace`). So the rules of a sheet are those of its pieces between the closing braces,
each read on its own (`rules_eq_pieces`), and a sheet can be read in parts (`parse_eq_pieces`). -/

namespace MailTemplate.Css

/-- The pieces of a sheet that a `}` ends; what comes after the last one is left out. -/
def closedPieces (sheet : List Char) : List (List Char) :=
  (Text.split (· == '}') sheet).dropLast

/-- The rule of a piece: a selector up to the first `{`, and declarations behind it. The selector
of a class starts with a dot. -/
def ruleOfPiece? (piece : List Char) : Option (Subject × Rule) :=
  let text := Text.trimStart piece
  match text.takeWhile (· != '{'), text.dropWhile (· != '{') with
  | [], _ => none
  | _, [] => none
  | '.' :: name, _ :: body =>
    if Text.trimChars name = [] then none
    else some (.ofClass, ⟨⟨String.ofList (Text.trimChars name)⟩,
      normalizeDeclarations (String.ofList body)⟩)
  | name, _ :: body =>
    some (.element, ⟨⟨String.ofList (Text.trimChars name)⟩,
      normalizeDeclarations (String.ofList body)⟩)

/-- The rules of the pieces of a sheet that are for `subject`. -/
def rulesOfPieces (subject : Subject) (sheet : List Char) : List Rule :=
  (((closedPieces sheet).filterMap ruleOfPiece?).filter (·.1 == subject)).map Prod.snd

namespace Scan

/-- The state after a text. -/
def after (state : State) (cs : List Char) : State :=
  cs.foldl (fun state c => (step state c).1) state

theorem after_cons (state : State) (c : Char) (cs : List Char) :
    after state (c :: cs) = after (step state c).1 cs := rfl

theorem after_append (state : State) (cs ds : List Char) :
    after state (cs ++ ds) = after (after state cs) ds := by
  simp [after, List.foldl_append]

theorem rules_cons (state : State) (c : Char) (cs : List Char) :
    rules state (c :: cs) = (step state c).2.toList ++ rules (step state c).1 cs := rfl

theorem rules_append (state : State) (cs ds : List Char) :
    rules state (cs ++ ds) = rules state cs ++ rules (after state cs) ds := by
  induction cs generalizing state with
  | nil => rfl
  | cons c cs ih => rw [List.cons_append, rules_cons, rules_cons, ih, after_cons, List.append_assoc]

/-! ## Braces -/

/-- A closing brace ends everything. -/
theorem step_closingBrace (state : State) : (step state '}').1 = .idle := by
  cases state <;> simp [step]

/-- Only a closing brace ends a rule. -/
theorem step_of_ne {c : Char} (h : c ≠ '}') (state : State) : (step state c).2 = none := by
  cases state <;> simp only [step, beq_iff_eq, h, if_false] <;> split_ifs <;> rfl

theorem rules_of_open {cs : List Char} (h : '}' ∉ cs) (state : State) : rules state cs = [] := by
  induction cs generalizing state with
  | nil => rfl
  | cons c cs ih =>
    obtain ⟨hc, hcs⟩ := List.ne_and_not_mem_of_not_mem_cons h
    rw [rules_cons, step_of_ne (Ne.symm hc), ih hcs]
    rfl

theorem rules_piece {piece : List Char} (h : '}' ∉ piece) (state : State) (rest : List Char) :
    rules state (piece ++ '}' :: rest) =
      (step (after state piece) '}').2.toList ++ rules .idle rest := by
  rw [rules_append, rules_of_open h, List.nil_append, rules_cons, step_closingBrace]

/-! ## One piece -/

theorem step_blank {c : Char} (h : Text.isBlank c = true) : (step .idle c).1 = .idle := by
  have hdot : c ≠ '.' := by rintro rfl; cases h
  have hopen : c ≠ '{' := by rintro rfl; cases h
  simp [step, h, hdot, hopen]

theorem after_blanks {cs : List Char} (h : ∀ c ∈ cs, Text.isBlank c = true) :
    after .idle cs = .idle := by
  induction cs with
  | nil => rfl
  | cons c cs ih =>
    rw [after_cons, step_blank (h c List.mem_cons_self)]
    exact ih fun d hd => h d (List.mem_cons_of_mem _ hd)

theorem after_anonymous {cs : List Char} (h : '}' ∉ cs) : after .anonymous cs = .anonymous := by
  induction cs with
  | nil => rfl
  | cons c cs ih =>
    obtain ⟨hc, hcs⟩ := List.ne_and_not_mem_of_not_mem_cons h
    simpa [after_cons, step, Ne.symm hc] using ih hcs

theorem after_declarations {cs : List Char} (h : '}' ∉ cs) (subject : Subject)
    (name text : String) :
    after (.declarations subject name text) cs =
      .declarations subject name (text ++ String.ofList cs) := by
  induction cs generalizing text with
  | nil => simp [after]
  | cons c cs ih =>
    obtain ⟨hc, hcs⟩ := List.ne_and_not_mem_of_not_mem_cons h
    have hstep : (step (.declarations subject name text) c).1 =
        .declarations subject name (text.push c) := by
      simp [step, Ne.symm hc]
    rw [after_cons, hstep, ih hcs, String.ofList_cons, ← String.append_assoc]
    simp

theorem after_selector {cs : List Char} (h : '}' ∉ cs) (hopen : '{' ∉ cs) (subject : Subject)
    (text : String) :
    after (.selector subject text) cs = .selector subject (text ++ String.ofList cs) := by
  induction cs generalizing text with
  | nil => simp [after]
  | cons c cs ih =>
    obtain ⟨hc, hcs⟩ := List.ne_and_not_mem_of_not_mem_cons h
    obtain ⟨hc', hcs'⟩ := List.ne_and_not_mem_of_not_mem_cons hopen
    have hstep : (step (.selector subject text) c).1 = .selector subject (text.push c) := by
      simp [step, Ne.symm hc, Ne.symm hc']
    rw [after_cons, hstep, ih hcs hcs', String.ofList_cons, ← String.append_assoc]
    simp

/-- The rule that a closing brace ends behind a selector that has been read as far as `text`. -/
theorem ended_selector {cs : List Char} (h : '}' ∉ cs) (subject : Subject) (text : String) :
    (step (after (.selector subject text) cs) '}').2 =
      match cs.dropWhile (· != '{') with
      | [] => none
      | _ :: body => step.rule? subject
          (Text.trim (text ++ String.ofList (cs.takeWhile (· != '{')))) (String.ofList body) := by
  have hsplit := List.takeWhile_append_dropWhile (p := (· != '{')) (l := cs)
  have hname : '{' ∉ cs.takeWhile (· != '{') := fun hmem => by
    simpa using List.mem_takeWhile_imp hmem
  have hname' : '}' ∉ cs.takeWhile (· != '{') :=
    fun hmem => h ((List.takeWhile_sublist _).mem hmem)
  cases hbody : cs.dropWhile (· != '{') with
  | nil =>
    rw [hbody, List.append_nil] at hsplit
    rw [hsplit] at hname
    rw [after_selector h hname]
    simp [step]
  | cons c body =>
    obtain rfl : c = '{' := by
      have hhead := List.head?_dropWhile_not (· != '{') cs
      rw [hbody] at hhead
      simpa using hhead
    rw [hbody] at hsplit
    have hbody' : '}' ∉ body := fun hmem => h (by rw [← hsplit]; simp [hmem])
    conv_lhs => rw [← hsplit]
    rw [after_append, after_selector hname' hname, after_cons]
    have hstep (name : String) :
        (step (.selector subject name) '{').1 = .declarations subject (Text.trim name) "" := by
      simp [step]
    rw [hstep, after_declarations hbody']
    simp [step]

theorem after_trimStart (piece : List Char) :
    after .idle piece = after .idle (Text.trimStart piece) := by
  obtain ⟨before, hpiece, hblank⟩ := Text.exists_blank_before piece
  conv_lhs => rw [hpiece]
  rw [after_append, after_blanks hblank]

/-- What a piece gives does not depend on what is before it. -/
theorem ended_piece {piece : List Char} (h : '}' ∉ piece) :
    (step (after .idle piece) '}').2 = ruleOfPiece? piece := by
  have htext : '}' ∉ Text.trimStart piece := fun hmem => h ((List.dropWhile_sublist _).mem hmem)
  rw [after_trimStart, ruleOfPiece?]
  cases hcs : Text.trimStart piece with
  | nil => simp [after, step]
  | cons c cs =>
    have hblank := Text.isBlank_head_trimStart hcs
    rw [hcs] at htext
    obtain ⟨hc, hclosed⟩ := List.ne_and_not_mem_of_not_mem_cons htext
    rw [after_cons]
    by_cases hopen : c = '{'
    · subst hopen
      have hstep : (step .idle '{').1 = .anonymous := by simp [step]
      rw [hstep, after_anonymous hclosed]
      simp [step]
    · by_cases hdot : c = '.'
      · subst hdot
        have hstep : (step .idle '.').1 = .selector .ofClass "" := by simp [step]
        rw [hstep, ended_selector hclosed]
        cases hbody : cs.dropWhile (· != '{') <;> simp [hbody, step.rule?, Text.trim]
      · have hstep : (step .idle c).1 = .selector .element (String.singleton c) := by
          simp [step, hopen, hdot, Ne.symm hc, hblank]
        have hname : Text.trimChars (c :: cs.takeWhile (· != '{')) ≠ [] :=
          Text.trimChars_ne_nil List.mem_cons_self hblank
        rw [hstep, ended_selector hclosed]
        cases hbody : cs.dropWhile (· != '{') <;>
          simp [hbody, step.rule?, Text.trim, hopen, hdot, hname]

theorem rules_closed {piece : List Char} (h : '}' ∉ piece) (rest : List Char) :
    rules .idle (piece ++ '}' :: rest) = (ruleOfPiece? piece).toList ++ rules .idle rest := by
  rw [rules_piece h, ended_piece h]

/-! ## All pieces -/

theorem closedPieces_of_open {cs : List Char} (h : '}' ∉ cs) : closedPieces cs = [] := by
  have hsplit : Text.split (· == '}') cs = [cs] :=
    Text.split_of_none fun c hc => by simpa using fun heq : c = '}' => h (heq ▸ hc)
  rw [closedPieces, hsplit, List.dropLast_singleton]

theorem closedPieces_append {piece : List Char} (h : '}' ∉ piece) (rest : List Char) :
    closedPieces (piece ++ '}' :: rest) = piece :: closedPieces rest := by
  have hsplit : Text.split (· == '}') (piece ++ '}' :: rest) =
      piece :: Text.split (· == '}') rest :=
    Text.split_append_cons (fun c hc => by simpa using fun heq : c = '}' => h (heq ▸ hc)) rfl rest
  rw [closedPieces, hsplit, List.dropLast_cons_of_ne_nil (Text.split_ne_nil _ _), closedPieces]

theorem rules_eq_pieces (cs : List Char) :
    rules .idle cs = (closedPieces cs).filterMap ruleOfPiece? := by
  induction hlength : cs.length using Nat.strong_induction_on generalizing cs with
  | h length ih =>
    by_cases hclosed : '}' ∈ cs
    · obtain ⟨piece, rest, rfl, hpiece⟩ := List.eq_append_cons_of_mem hclosed
      have hrest : rest.length < length := by
        rw [← hlength, List.length_append, List.length_cons]
        omega
      rw [rules_closed hpiece, ih _ hrest rest rfl, closedPieces_append hpiece]
      cases hrule : ruleOfPiece? piece <;> simp [hrule]
    · rw [rules_of_open hclosed, closedPieces_of_open hclosed, List.filterMap_nil]

/-- Blanks behind the last closing brace begin no rule. -/
theorem after_eq_idle {cs : List Char}
    (h : ∀ c ∈ cs.rtakeWhile (· != '}'), Text.isBlank c = true) : after .idle cs = .idle := by
  induction cs using List.reverseRecOn with
  | nil => rfl
  | append_singleton cs c ih =>
    rw [after_append]
    by_cases hc : c = '}'
    · rw [hc, after_cons, step_closingBrace]
      rfl
    · rw [List.rtakeWhile_concat_pos (· != '}') cs c (by simpa using hc)] at h
      rw [ih fun d hd => h d (List.mem_append_left _ hd), after_cons,
        step_blank (h c (List.mem_append_right _ (List.mem_singleton_self c)))]
      rfl

end Scan

/-- A name and a block behind it. -/
theorem ruleOfPiece_named {c : Char} {name : List Char} (hc : Text.isBlank c = false)
    (hopen : '{' ∉ c :: name) (body : List Char) :
    ruleOfPiece? (c :: name ++ '{' :: body) =
      if c = '.' then
        if Text.trimChars name = [] then none
        else some (.ofClass, ⟨⟨String.ofList (Text.trimChars name)⟩,
          normalizeDeclarations (String.ofList body)⟩)
      else some (.element, ⟨⟨String.ofList (Text.trimChars (c :: name))⟩,
        normalizeDeclarations (String.ofList body)⟩) := by
  have htrim : Text.trimStart (c :: name ++ '{' :: body) = c :: name ++ '{' :: body :=
    List.dropWhile_cons_of_neg (by simp [hc])
  have hname : ∀ d ∈ c :: name, (d != '{') = true :=
    fun d hd => bne_iff_ne.mpr (ne_of_mem_of_not_mem hd hopen)
  have htake : (c :: name ++ '{' :: body).takeWhile (· != '{') = c :: name := by
    rw [List.takeWhile_append_of_pos hname]
    simp
  have hdrop : (c :: name ++ '{' :: body).dropWhile (· != '{') = '{' :: body := by
    rw [List.dropWhile_append_of_pos hname]
    simp
  rw [ruleOfPiece?, htrim, htake, hdrop]
  by_cases hdot : c = '.'
  · rw [if_pos hdot, hdot]
    rfl
  · simp [hdot]

theorem rules_ofRules (list : List (Subject × Rule)) (subject : Subject) :
    (Stylesheet.ofRules list).rules subject = (list.filter (·.1 == subject)).map Prod.snd := by
  cases subject <;> rfl

/-- Reading a sheet is reading its pieces. A sheet in two parts, of which the first one leaves
nothing open, has the rules of both. -/
theorem parse_eq_pieces :
    (∀ (text : String) (subject : Subject),
      (Stylesheet.parse text).rules subject = rulesOfPieces subject text.toList) ∧
    ∀ a b : String, (∀ c ∈ a.toList.rtakeWhile (· != '}'), Text.isBlank c = true) →
      ∀ subject, (Stylesheet.parse (a ++ b)).rules subject =
        (Stylesheet.parse a).rules subject ++ (Stylesheet.parse b).rules subject := by
  constructor
  · intro text subject
    rw [Stylesheet.parse, rules_ofRules, Scan.rules_eq_pieces, rulesOfPieces]
  · intro a b hblank subject
    have hrules := Scan.rules_append .idle a.toList b.toList
    rw [Scan.after_eq_idle hblank] at hrules
    simp only [Stylesheet.parse, rules_ofRules, String.toList_append, hrules, List.filter_append,
      List.map_append]

/-- A sheet with a block that has no name and a name that has no block. -/
def oddSheet : String :=
  "\x7ba\x7d p \x7bx:1;\n\x7d b\x7d \n"

theorem parse_eq_pieces_oddSheet :
    (∀ c ∈ oddSheet.toList.rtakeWhile (· != '}'), Text.isBlank c = true) ∧
      (Stylesheet.parse (oddSheet ++ ".c\x7by:2\x7d")).rules .element = [⟨⟨"p"⟩, "x:1;"⟩] ∧
      (Stylesheet.parse (oddSheet ++ ".c\x7by:2\x7d")).rules .ofClass = [⟨⟨"c"⟩, "y:2;"⟩] := by
  have hblank : ∀ c ∈ oddSheet.toList.rtakeWhile (· != '}'), Text.isBlank c = true :=
    List.all_eq_true.mp (by decide +kernel)
  have h := parse_eq_pieces.2 oddSheet ".c\x7by:2\x7d" hblank
  refine ⟨hblank, ?_, ?_⟩
  · rw [h .element]
    decide +kernel
  · rw [h .ofClass]
    decide +kernel

end MailTemplate.Css
