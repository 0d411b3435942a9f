import MailTemplate.Json.Decode
import MailTemplate.Proofs.Json.Numerals
import MailTemplate.Proofs.Json.Strings

/-! # JSON texts

The grammar of JSON as a relation of trees and texts (`Tree.Written`): between any two parts there
may be blanks, and a string or a number may be written in many ways. The reader gets the tree of a
text back (`Tree.Written.read`), so a decoder is given just what the text says
(`Tree.decodeText_of_says`), and a value that is passed over never fails (`Tree.Written.pass`). -/

namespace MailTemplate.Json.Tree

def AreBlanks (cs : List Char) : Prop :=
  ∀ c ∈ cs, isBlank c = true

/-- What stands before an item or a member, besides blanks. -/
def separator (first : Bool) : List Char :=
  if first then [] else [',']

mutual

/-- A text without blanks around it, and what it says. -/
inductive Written : Tree → List Char → Prop
  | null : Written .null ['n', 'u', 'l', 'l']
  | bool {b : Bool} :
      Written (.bool b) (if b then ['t', 'r', 'u', 'e'] else ['f', 'a', 'l', 's', 'e'])
  | number {numeral : Numeral} {cs : List Char} : numeral.Written cs →
      Written (.number numeral.number) cs
  | string {cs : List Char} {text : Except Fault (List Char)} : Quoted.Spells cs text →
      Written (.string ⟨text.map String.ofList, none⟩) ('"' :: (cs ++ ['"']))
  | array {items : ItemTrees} {cs : List Char} : WrittenItems true items cs →
      Written (.array items) ('[' :: cs)
  | object {members : MemberTrees} {cs : List Char} : WrittenMembers true members cs →
      Written (.object members) ('{' :: cs)

/-- Items, from the first one or a later one on, and the closing bracket. -/
inductive WrittenItems : Bool → ItemTrees → List Char → Prop
  | closed {first : Bool} {before : List Char} : AreBlanks before →
      WrittenItems first (.stop .closed) (before ++ [']'])
  | item {first : Bool} {before behind cs ds : List Char} {value : Tree} {rest : ItemTrees} :
      AreBlanks before → AreBlanks behind → Written value cs → WrittenItems false rest ds →
      WrittenItems first (.item value rest)
        (before ++ (separator first ++ (behind ++ (cs ++ ds))))

/-- Members, from the first one or a later one on, and the closing brace. -/
inductive WrittenMembers : Bool → MemberTrees → List Char → Prop
  | closed {first : Bool} {before : List Char} : AreBlanks before →
      WrittenMembers first (.stop .closed) (before ++ ['}'])
  | member {first : Bool} {before behind name beforeColon behindColon cs ds : List Char}
      {key : Except Fault (List Char)} {value : Tree} {rest : MemberTrees} :
      AreBlanks before → AreBlanks behind → Quoted.Spells name key → AreBlanks beforeColon →
      AreBlanks behindColon → Written value cs → WrittenMembers false rest ds →
      WrittenMembers first (.member ⟨key.map String.ofList, none⟩ value rest)
        (before ++ (separator first ++ (behind ++ ('"' :: (name ++ '"' ::
          (beforeColon ++ ':' :: (behindColon ++ (cs ++ ds))))))))

end

/-- The text says the tree and nothing else. -/
def Says (text : String) (tree : Tree) : Prop :=
  ∃ before cs behind, text.toList = before ++ (cs ++ behind) ∧ AreBlanks before ∧
    AreBlanks behind ∧ Written tree cs

/-! ## Where a value starts and ends -/

/-- A text that stands behind a value. -/
def Delimited (rest : List Char) : Prop :=
  ∀ c ∈ rest.head?, isBlank c = true ∨ c = ',' ∨ c = ']' ∨ c = '}'

theorem Delimited.ended {rest : List Char} (h : Delimited rest) : Numeral.Ended rest := by
  intro c hc
  rcases h c hc with hblank | rfl | rfl | rfl
  · simp only [isBlank, Bool.or_eq_true, beq_iff_eq] at hblank
    rcases hblank with ((rfl | rfl) | rfl) | rfl <;>
      exact ⟨by decide, by decide, by simp [Numeral.IsExponentMark]⟩
  all_goals exact ⟨by decide, by decide, by simp [Numeral.IsExponentMark]⟩

theorem delimited_blanks {cs rest : List Char} (hcs : AreBlanks cs) (hrest : Delimited rest) :
    Delimited (cs ++ rest) := by
  cases cs with
  | nil => exact hrest
  | cons c cs =>
    intro d hd
    obtain rfl := Option.some.inj hd
    exact .inl (hcs c List.mem_cons_self)

/-- The first character of a value is no blank, and no bracket that closes a list. -/
theorem Written.head {tree : Tree} {cs : List Char} (h : Written tree cs) :
    ∃ c ds, cs = c :: ds ∧ isBlank c = false ∧ c ≠ ']' := by
  cases h with
  | number hnumeral =>
    obtain ⟨c, ds, rfl, hc⟩ := hnumeral.head
    refine ⟨c, ds, rfl, ?_, hc.ne (by decide)⟩
    simp only [isBlank, Bool.or_eq_false_iff, beq_eq_false_iff_ne]
    exact ⟨⟨⟨hc.ne (by decide), hc.ne (by decide)⟩, hc.ne (by decide)⟩, hc.ne (by decide)⟩
  | @bool b =>
    cases b with
    | true => exact ⟨'t', _, rfl, by decide, by decide⟩
    | false => exact ⟨'f', _, rfl, by decide, by decide⟩
  | _ => exact ⟨_, _, rfl, by decide, by decide⟩

theorem WrittenItems.delimited {items : ItemTrees} {cs : List Char}
    (h : WrittenItems false items cs) (rest : List Char) : Delimited (cs ++ rest) := by
  cases h with
  | closed hbefore =>
    rw [List.append_assoc]
    exact delimited_blanks hbefore (by simp [Delimited])
  | item hbefore =>
    rw [List.append_assoc]
    exact delimited_blanks hbefore (by simp [Delimited, separator])

theorem WrittenMembers.delimited {members : MemberTrees} {cs : List Char}
    (h : WrittenMembers false members cs) (rest : List Char) : Delimited (cs ++ rest) := by
  cases h with
  | closed hbefore =>
    rw [List.append_assoc]
    exact delimited_blanks hbefore (by simp [Delimited])
  | member hbefore =>
    rw [List.append_assoc]
    exact delimited_blanks hbefore (by simp [Delimited, separator])

/-! ## Single steps of the reader -/

theorem skipBlanks_append {before : List Char} (h : AreBlanks before) (cs : List Char) :
    skipBlanks (before ++ cs) = skipBlanks cs :=
  List.dropWhile_append_of_pos h

theorem skipBlanks_cons {c : Char} (h : isBlank c = false) (cs : List Char) :
    skipBlanks (c :: cs) = c :: cs :=
  List.dropWhile_cons_of_neg (by simp [h])

theorem read_blanks {before : List Char} (h : AreBlanks before) (fuel : Nat) (cs : List Char) :
    read fuel (before ++ cs) = read fuel cs := by
  cases fuel with
  | zero => rfl
  | succ fuel => rw [read, read, skipBlanks_append h]

theorem read_number {numeral : Numeral} {cs rest : List Char} (h : numeral.Written cs)
    (hrest : Numeral.Ended rest) (fuel : Nat) :
    read (fuel + 1) (cs ++ rest) = (.number numeral.number, rest) := by
  obtain ⟨c, ds, hcs, hblank, -⟩ := (Written.number h).head
  obtain ⟨d, es, hds, hc⟩ := h.head
  obtain ⟨rfl, rfl⟩ := List.cons.inj (hcs.symm.trans hds)
  have hstarts : (c == '-' || c.isDigit) = true := by simpa [Numeral.Starts] using hc
  have hn : c ≠ 'n' := hc.ne (by decide)
  have ht : c ≠ 't' := hc.ne (by decide)
  have hf : c ≠ 'f' := hc.ne (by decide)
  have hquote : c ≠ '"' := hc.ne (by decide)
  have hbracket : c ≠ '[' := hc.ne (by decide)
  have hbrace : c ≠ '{' := hc.ne (by decide)
  have hread : readNumber (cs ++ rest) = (.number numeral.number, rest) := by
    rw [readNumber, h.take hrest]
  rw [hcs, List.cons_append] at hread ⊢
  -- the first character is none of those for which another reader is called
  rw [read, skipBlanks_cons hblank]
  simp only [hstarts, if_true, hread]

theorem readWord_append (tree : Tree) (letters rest : List Char) :
    readWord tree letters (letters ++ rest) = (tree, rest) := by
  induction letters with
  | nil => rfl
  | cons letter letters ih => simpa [readWord] using ih

theorem areBlanks_append {before behind : List Char} (hbefore : AreBlanks before)
    (hbehind : AreBlanks behind) : AreBlanks (before ++ behind) :=
  List.forall_mem_append.mpr ⟨hbefore, hbehind⟩

/-- The reader for the items from the first one or a later one on. -/
def itemsReader (first : Bool) : Nat → List Char → ItemTrees × List Char :=
  if first then readItems else readMoreItems

def membersReader (first : Bool) : Nat → List Char → MemberTrees × List Char :=
  if first then readMembers else readMoreMembers

section

variable {before behind : List Char} (hbefore : AreBlanks before)

include hbefore

theorem itemsReader_closed (first : Bool) (fuel : Nat) (rest : List Char) :
    itemsReader first (fuel + 1) (before ++ ']' :: rest) = (.stop .closed, rest) := by
  cases first with
  | true =>
    rw [itemsReader, if_pos rfl, readItems, skipBlanks_append hbefore]
    rfl
  | false =>
    rw [itemsReader, if_neg Bool.false_ne_true, readMoreItems, skipBlanks_append hbefore]
    rfl

theorem membersReader_closed (first : Bool) (fuel : Nat) (rest : List Char) :
    membersReader first (fuel + 1) (before ++ '}' :: rest) = (.stop .closed, rest) := by
  cases first with
  | true =>
    rw [membersReader, if_pos rfl, readMembers, skipBlanks_append hbefore]
    rfl
  | false =>
    rw [membersReader, if_neg Bool.false_ne_true, readMoreMembers, skipBlanks_append hbefore]
    rfl

variable (hbehind : AreBlanks behind)

include hbehind

theorem itemsReader_item {c : Char} (hblank : isBlank c = false) (hc : c ≠ ']') (first : Bool)
    (fuel : Nat) (cs : List Char) :
    itemsReader first (fuel + 1) (before ++ (separator first ++ (behind ++ c :: cs))) =
      readItem fuel (c :: cs) := by
  cases first with
  | true =>
    rw [itemsReader, if_pos rfl, separator, if_pos rfl, List.nil_append, readItems,
      skipBlanks_append hbefore, skipBlanks_append hbehind, skipBlanks_cons hblank]
    split
    · next heq => cases heq
    · next heq => exact absurd (List.cons.inj heq).1 hc
    · rfl
  | false =>
    rw [itemsReader, if_neg Bool.false_ne_true, separator, if_neg Bool.false_ne_true,
      List.singleton_append, readMoreItems, skipBlanks_append hbefore,
      skipBlanks_cons (by decide)]
    simp only
    rw [skipBlanks_append hbehind, skipBlanks_cons hblank]
    split
    · next heq => exact absurd (List.cons.inj heq).1 hc
    · rfl

theorem membersReader_member (first : Bool) (fuel : Nat) (cs : List Char) :
    membersReader first (fuel + 1) (before ++ (separator first ++ (behind ++ '"' :: cs))) =
      readMember fuel ('"' :: cs) := by
  cases first with
  | true =>
    rw [membersReader, if_pos rfl, separator, if_pos rfl, List.nil_append, readMembers,
      skipBlanks_append hbefore, skipBlanks_append hbehind]
    rfl
  | false =>
    rw [membersReader, if_neg Bool.false_ne_true, separator, if_neg Bool.false_ne_true,
      List.singleton_append, readMoreMembers, skipBlanks_append hbefore,
      skipBlanks_cons (by decide)]
    simp only
    rw [skipBlanks_append hbehind]
    rfl

end

/-! ## Reading -/

theorem Written.length_pos {tree : Tree} {cs : List Char} (h : Written tree cs) :
    0 < cs.length := by
  obtain ⟨c, ds, rfl, -⟩ := h.head
  exact Nat.succ_pos _

theorem WrittenItems.length_pos {first : Bool} {cs : List Char} {items : ItemTrees}
    (h : WrittenItems first items cs) : 0 < cs.length := by
  cases h with
  | closed _ => simp
  | item _ _ hvalue _ =>
    have hpos := hvalue.length_pos
    simp only [List.length_append]
    omega

theorem WrittenMembers.length_pos {first : Bool} {cs : List Char} {members : MemberTrees}
    (h : WrittenMembers first members cs) : 0 < cs.length := by
  cases h with
  | closed _ => simp
  | member _ _ _ _ _ _ _ =>
    simp only [List.length_append, List.length_cons]
    omega

mutual

/-- Four steps for every character are enough. -/
theorem Written.read {tree : Tree} {cs rest : List Char} (h : Written tree cs)
    (hrest : Delimited rest) {fuel : Nat} (hfuel : 4 * cs.length ≤ fuel) :
    Tree.read fuel (cs ++ rest) = (tree, rest) := by
  have hpos := h.length_pos
  obtain ⟨fuel, rfl⟩ : ∃ more, fuel = more + 1 := ⟨fuel - 1, by omega⟩
  cases h with
  | null =>
    rw [Tree.read, List.cons_append, skipBlanks_cons (by decide)]
    exact readWord_append .null ['u', 'l', 'l'] rest
  | @bool b =>
    cases b with
    | true =>
      rw [Tree.read, if_pos rfl, List.cons_append, skipBlanks_cons (by decide)]
      exact readWord_append (.bool true) ['r', 'u', 'e'] rest
    | false =>
      rw [Tree.read, if_neg Bool.false_ne_true, List.cons_append, skipBlanks_cons (by decide)]
      exact readWord_append (.bool false) ['a', 'l', 's', 'e'] rest
  | number hnumeral => exact read_number hnumeral hrest.ended fuel
  | string hspells =>
    rw [Tree.read, List.cons_append, skipBlanks_cons (by decide), List.append_assoc]
    simp only [List.singleton_append, hspells.take]
  | @array items cs hitems =>
    rw [List.length_cons] at hfuel
    have hread : readItems fuel (cs ++ rest) = (items, rest) := hitems.read rest (by omega)
    rw [Tree.read, List.cons_append, skipBlanks_cons (by decide)]
    simp only [hread]
  | @object members cs hmembers =>
    rw [List.length_cons] at hfuel
    have hread : readMembers fuel (cs ++ rest) = (members, rest) := hmembers.read rest (by omega)
    rw [Tree.read, List.cons_append, skipBlanks_cons (by decide)]
    simp only [hread]

theorem WrittenItems.read {first : Bool} {cs : List Char} {items : ItemTrees}
    (h : WrittenItems first items cs) (rest : List Char) {fuel : Nat}
    (hfuel : 4 * cs.length ≤ fuel) : itemsReader first fuel (cs ++ rest) = (items, rest) := by
  have hpos := h.length_pos
  cases h with
  | closed hbefore =>
    obtain ⟨fuel, rfl⟩ : ∃ more, fuel = more + 1 := ⟨fuel - 1, by omega⟩
    rw [List.append_assoc]
    exact itemsReader_closed hbefore first fuel rest
  | @item _ before behind cs ds value more hbefore hbehind hvalue hmore =>
    have hvaluePos := hvalue.length_pos
    have hmorePos := hmore.length_pos
    simp only [List.length_append] at hfuel
    obtain ⟨fuel, rfl⟩ : ∃ more, fuel = more + 2 := ⟨fuel - 2, by omega⟩
    have hvalueRead : Tree.read fuel (cs ++ (ds ++ rest)) = (value, ds ++ rest) :=
      hvalue.read (hmore.delimited rest) (by omega)
    have hmoreRead : readMoreItems fuel (ds ++ rest) = (more, rest) := hmore.read rest (by omega)
    obtain ⟨c, es, rfl, hblank, hc⟩ := hvalue.head
    simp only [List.append_assoc, List.cons_append] at hvalueRead ⊢
    rw [itemsReader_item hbefore hbehind hblank hc, readItem, hvalueRead]
    simp only [hmoreRead]

theorem WrittenMembers.read {first : Bool} {cs : List Char} {members : MemberTrees}
    (h : WrittenMembers first members cs) (rest : List Char) {fuel : Nat}
    (hfuel : 4 * cs.length ≤ fuel) : membersReader first fuel (cs ++ rest) = (members, rest) := by
  have hpos := h.length_pos
  cases h with
  | closed hbefore =>
    obtain ⟨fuel, rfl⟩ : ∃ more, fuel = more + 1 := ⟨fuel - 1, by omega⟩
    rw [List.append_assoc]
    exact membersReader_closed hbefore first fuel rest
  | @member _ before behind name beforeColon behindColon cs ds key value more hbefore hbehind hname
      hbeforeColon hbehindColon hvalue hmore =>
    simp only [List.length_append, List.length_cons] at hfuel
    obtain ⟨fuel, rfl⟩ : ∃ more, fuel = more + 2 := ⟨fuel - 2, by omega⟩
    have hvalueRead :
        Tree.read fuel (behindColon ++ (cs ++ (ds ++ rest))) = (value, ds ++ rest) := by
      rw [read_blanks hbehindColon]
      exact hvalue.read (hmore.delimited rest) (by omega)
    have hmoreRead : readMoreMembers fuel (ds ++ rest) = (more, rest) :=
      hmore.read rest (by omega)
    simp only [List.append_assoc, List.cons_append]
    rw [membersReader_member hbefore hbehind, readMember, skipBlanks_cons (by decide)]
    simp only
    rw [hname.take]
    simp only
    rw [skipBlanks_append hbeforeColon, skipBlanks_cons (by decide)]
    simp only
    rw [hvalueRead]
    simp only [hmoreRead]

end

/-- Blanks behind a text say nothing. -/
theorem Says.append {text behind : String} {tree : Tree} (h : Says text tree)
    (hbehind : AreBlanks behind.toList) : Says (text ++ behind) tree := by
  obtain ⟨before, cs, after, htext, hbefore, hafter, hwritten⟩ := h
  have hblanks := areBlanks_append hafter hbehind
  refine ⟨before, cs, after ++ behind.toList, ?_, hbefore, hblanks, hwritten⟩
  rw [String.toList_append, htext, List.append_assoc, List.append_assoc]

theorem ofChars_of_says {text : String} {tree : Tree} (h : Says text tree) :
    ∃ behind, ofChars text.toList = (tree, behind) ∧ AreBlanks behind := by
  obtain ⟨before, cs, behind, htext, hbefore, hbehind, hwritten⟩ := h
  have hdelimited : Delimited behind := by
    have hnil := delimited_blanks hbehind (show Delimited [] by simp [Delimited])
    rwa [List.append_nil] at hnil
  refine ⟨behind, ?_, hbehind⟩
  rw [ofChars, htext, read_blanks hbefore]
  refine hwritten.read hdelimited ?_
  simp only [fuelFor, List.length_append]
  omega

/-- A decoder for a whole text is given what the text says. -/
theorem decodeText_of_says {α : Type} (decode : Decoder α) {text : String} {tree : Tree}
    (h : Says text tree) : decodeText decode text = decode maxDepth tree := by
  obtain ⟨behind, htree, hbehind⟩ := ofChars_of_says h
  have hskip : skipBlanks behind = [] := by
    have hnil := skipBlanks_append hbehind []
    rwa [List.append_nil] at hnil
  rw [decodeText, htree]
  simp only [hskip, List.isEmpty_nil, if_true, bind_pure]

/-! ## Passing over values -/

/-- What is too large for a number is read over. -/
theorem passNumber_scaled (n : UInt64) (exponent : Int) (number : Float → Number) :
    passNumber (Numeral.scaled n exponent >>= fun x => pure (number x)) = .ok () := by
  unfold Numeral.scaled
  dsimp only
  split_ifs <;> rfl

/-- A number that is written well is out of range at most. -/
theorem passNumber_number (numeral : Numeral) : passNumber numeral.number = .ok () := by
  have hfloat : passNumber numeral.float = .ok () := passNumber_scaled _ _ _
  unfold Numeral.number
  dsimp only
  split_ifs
  all_goals first | exact hfloat | rfl

mutual

theorem Written.pass {tree : Tree} {cs : List Char} (h : Written tree cs) :
    tree.pass = .ok () := by
  cases h with
  | null | bool => rfl
  | string _ => rfl
  | @number numeral _ _ => exact passNumber_number numeral
  | array hitems => exact hitems.pass
  | object hmembers => exact hmembers.pass

theorem WrittenItems.pass {first : Bool} {items : ItemTrees} {cs : List Char}
    (h : WrittenItems first items cs) : passItems items = .ok () := by
  cases h with
  | closed _ => rfl
  | item _ _ hvalue hmore =>
    rw [passItems, hvalue.pass]
    exact hmore.pass

theorem WrittenMembers.pass {first : Bool} {members : MemberTrees} {cs : List Char}
    (h : WrittenMembers first members cs) : passMembers members = .ok () := by
  cases h with
  | closed _ => rfl
  | member _ _ _ _ _ hvalue hmore =>
    rw [passMembers, hvalue.pass]
    exact hmore.pass

end

end MailTemplate.Json.Tree
