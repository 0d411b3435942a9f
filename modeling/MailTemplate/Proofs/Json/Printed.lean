import MailTemplate.Json.Writer
import MailTemplate.Proofs.Json.Grammar
import MailTemplate.Proofs.Json.Ordered

/-! # Written values

On one line or on many, the text of a value without floating point is JSON that says this value
(`Value.says_compact`, `Value.says_pretty`). The members of its objects have to be in order, as they
are in every object that is read. -/

namespace MailTemplate.Json

namespace Value

/-- No number in the value is floating point. -/
inductive FloatFree : Value → Prop
  | null : FloatFree .null
  | bool {b : Bool} : FloatFree (.bool b)
  | number {n : Number} : (∀ x, n ≠ .float x) → FloatFree (.number n)
  | string {text : String} : FloatFree (.string text)
  | array {items : List Value} : (∀ item ∈ items, FloatFree item) → FloatFree (.array items)
  | object {members : Members} : (∀ member ∈ members, FloatFree member.2) →
      FloatFree (.object members)

attribute [simp] FloatFree.null FloatFree.bool FloatFree.string

section

variable {items : List Value} {members : Members}

@[simp] theorem floatFree_number {n : Number} : (number n).FloatFree ↔ ∀ x, n ≠ .float x :=
  ⟨fun h => by cases h; assumption, .number⟩

@[simp] theorem floatFree_array : (array items).FloatFree ↔ ∀ item ∈ items, item.FloatFree :=
  ⟨fun h => by cases h; assumption, .array⟩

@[simp] theorem floatFree_object :
    (object members).FloatFree ↔ ∀ member ∈ members, member.2.FloatFree :=
  ⟨fun h => by cases h; assumption, .object⟩

end

theorem Simple.floatFree {value : Value} (h : value.Simple) : value.FloatFree := by
  cases h <;> simp

mutual

/-- What the text of the value says. -/
def tree : Value → Tree
  | null => .null
  | bool b => .bool b
  | number n => .number (.ok n)
  | string text => .string ⟨.ok text, none⟩
  | array items => .array (itemTrees items)
  | object members => .object (memberTrees members)

def itemTrees : List Value → ItemTrees
  | [] => .stop .closed
  | value :: items => .item value.tree (itemTrees items)

def memberTrees : List (String × Value) → MemberTrees
  | [] => .stop .closed
  | (key, value) :: members => .member ⟨.ok key, none⟩ value.tree (memberTrees members)

end

theorem itemTrees_eq (items : List Value) : itemTrees items = .ofList (items.map tree) := by
  induction items with
  | nil => rfl
  | cons value items ih => rw [itemTrees, ih, List.map_cons, ItemTrees.ofList]

theorem memberTrees_eq (members : List (String × Value)) :
    memberTrees members = .ofList (members.map fun member => (member.1, member.2.tree)) := by
  induction members with
  | nil => rfl
  | cons member members ih => rw [memberTrees, ih, List.map_cons, MemberTrees.ofList]

/-! ## The text is written well -/

open Json.Tree

theorem areBlanks_nil : AreBlanks [] := by
  simp [AreBlanks]

theorem areBlanks_newLine (depth : Nat) : AreBlanks (newLine depth) := by
  intro c hc
  rcases List.mem_cons.mp hc with rfl | hspace
  · rfl
  · rw [List.eq_of_mem_replicate hspace]
    rfl

theorem areBlanks_space : AreBlanks [' '] := by
  simp [AreBlanks, isBlank]

theorem written_string (text : String) :
    Written (.string ⟨.ok text, none⟩) (Quoted.encode text) := by
  obtain ⟨cs, hcs, hspells⟩ := Quoted.spells_encode text
  have hwritten := Written.string hspells
  rw [Except.map, String.ofList_toList] at hwritten
  rw [hcs]
  exact hwritten

theorem writtenMembers_key {first : Bool} {before behind behindColon cs ds : List Char}
    (hbefore : AreBlanks before) (hbehind : AreBlanks behind) (key : String)
    (hbehindColon : AreBlanks behindColon) {value : Tree} (hvalue : Written value cs)
    {more : MemberTrees} (hmore : WrittenMembers false more ds) :
    WrittenMembers first (.member ⟨.ok key, none⟩ value more)
      (before ++ (separator first ++ (behind ++ (Quoted.encode key ++
        ':' :: (behindColon ++ (cs ++ ds)))))) := by
  obtain ⟨name, hname, hspells⟩ := Quoted.spells_encode key
  have hwritten := @WrittenMembers.member first _ _ _ _ _ _ _ _ _ _ hbefore hbehind hspells
    areBlanks_nil hbehindColon hvalue hmore
  rw [Except.map, String.ofList_toList] at hwritten
  rw [hname]
  simpa using hwritten

/-! ### On one line -/

theorem writtenItems_write {items : List Value} (h : ∀ item ∈ items, Written item.tree item.write) :
    WrittenItems false (itemTrees items) (writeMoreItems items ++ [']']) ∧
      WrittenItems true (itemTrees items) (writeItems items ++ [']']) := by
  induction items with
  | nil => exact ⟨.closed areBlanks_nil, .closed areBlanks_nil⟩
  | cons value items ih =>
    obtain ⟨hvalue, hitems⟩ := List.forall_mem_cons.mp h
    have hitem (first : Bool) :=
      @WrittenItems.item first _ _ _ _ _ _ areBlanks_nil areBlanks_nil hvalue (ih hitems).1
    exact ⟨by simpa [separator, writeMoreItems, itemTrees] using hitem false,
      by simpa [separator, writeItems, itemTrees] using hitem true⟩

theorem writtenMembers_write {members : Members}
    (h : ∀ member ∈ members, Written member.2.tree member.2.write) :
    WrittenMembers false (memberTrees members) (writeMoreMembers members ++ ['}']) ∧
      WrittenMembers true (memberTrees members) (writeMembers members ++ ['}']) := by
  induction members with
  | nil => exact ⟨.closed areBlanks_nil, .closed areBlanks_nil⟩
  | cons member members ih =>
    obtain ⟨hvalue, hmembers⟩ := List.forall_mem_cons.mp h
    have hmember (first : Bool) :=
      @writtenMembers_key first _ _ _ _ _ areBlanks_nil areBlanks_nil member.1 areBlanks_nil _
        hvalue _ (ih hmembers).1
    exact ⟨by simpa [separator, writeMoreMembers, memberTrees] using hmember false,
      by simpa [separator, writeMembers, memberTrees] using hmember true⟩

theorem FloatFree.written_write {value : Value} (h : value.FloatFree) :
    Written value.tree value.write := by
  induction h with
  | null => exact .null
  | @bool b => cases b <;> exact .bool
  | @number n hn =>
    obtain ⟨numeral, hwritten, hnumber⟩ := Number.exists_numeral hn
    rw [tree, ← hnumber]
    exact .number hwritten
  | @string text => exact written_string text
  | array _ ih => exact .array (writtenItems_write ih).2
  | object _ ih => exact .object (writtenMembers_write ih).2

/-! ### On many lines -/

theorem writtenItems_lines (depth : Nat) {items : List Value}
    (h : ∀ item ∈ items, Written item.tree (item.writeLines (depth + 1))) :
    WrittenItems false (itemTrees items) (moreItemLines depth items) := by
  induction items with
  | nil => exact .closed (areBlanks_newLine depth)
  | cons value items ih =>
    obtain ⟨hvalue, hitems⟩ := List.forall_mem_cons.mp h
    have hitem := @WrittenItems.item false _ _ _ _ _ _ areBlanks_nil
      (areBlanks_newLine (depth + 1)) hvalue (ih hitems)
    simpa [separator, moreItemLines, itemTrees] using hitem

theorem writtenMembers_lines (depth : Nat) {members : Members}
    (h : ∀ member ∈ members, Written member.2.tree (member.2.writeLines (depth + 1))) :
    WrittenMembers false (memberTrees members) (moreMemberLines depth members) := by
  induction members with
  | nil => exact .closed (areBlanks_newLine depth)
  | cons member members ih =>
    obtain ⟨hvalue, hmembers⟩ := List.forall_mem_cons.mp h
    have hmember := @writtenMembers_key false _ _ _ _ _ areBlanks_nil
      (areBlanks_newLine (depth + 1)) member.1 areBlanks_space _ hvalue _ (ih hmembers)
    simpa [separator, moreMemberLines, memberTrees] using hmember

theorem FloatFree.written_writeLines {value : Value} (h : value.FloatFree) (depth : Nat) :
    Written value.tree (value.writeLines depth) := by
  induction h generalizing depth with
  | null => exact FloatFree.null.written_write
  | bool => exact FloatFree.bool.written_write
  | number hn => exact (FloatFree.number hn).written_write
  | string => exact FloatFree.string.written_write
  | @array items _ ih =>
    cases items with
    | nil => exact .array (.closed areBlanks_nil)
    | cons value items =>
      obtain ⟨hvalue, hitems⟩ := List.forall_mem_cons.mp fun item hitem => ih item hitem (depth + 1)
      have hwritten := @WrittenItems.item true _ _ _ _ _ _ areBlanks_nil
        (areBlanks_newLine (depth + 1)) hvalue (writtenItems_lines depth hitems)
      simpa [separator, writeLines, tree, itemTrees] using Written.array hwritten
  | @object members _ ih =>
    cases members with
    | nil => exact .object (.closed areBlanks_nil)
    | cons member members =>
      obtain ⟨hvalue, hmembers⟩ :=
        List.forall_mem_cons.mp fun member hmember => ih member hmember (depth + 1)
      have hwritten := @writtenMembers_key true _ _ _ _ _ areBlanks_nil
        (areBlanks_newLine (depth + 1)) member.1 areBlanks_space _ hvalue _
        (writtenMembers_lines depth hmembers)
      simpa [separator, writeLines, tree, memberTrees] using Written.object hwritten

/-! ## The text says the value -/

theorem FloatFree.says_compact {value : Value} (h : value.FloatFree) :
    Says value.compact value.tree :=
  ⟨[], value.write, [], by simp [compact], areBlanks_nil, areBlanks_nil, h.written_write⟩

theorem FloatFree.says_pretty {value : Value} (h : value.FloatFree) :
    Says value.pretty value.tree :=
  ⟨[], value.writeLines 0, [], by simp [pretty], areBlanks_nil, areBlanks_nil,
    h.written_writeLines 0⟩

end Value

namespace Value

theorem values?_itemTrees {items : List Value} (h : ∀ item ∈ items, item.tree.value? = some item) :
    (itemTrees items).values? = some items := by
  induction items with
  | nil => rfl
  | cons value items ih =>
    obtain ⟨hvalue, hitems⟩ := List.forall_mem_cons.mp h
    rw [itemTrees, ItemTrees.values?, hvalue, ih hitems]
    rfl

theorem values?_memberTrees {members : Members}
    (h : ∀ member ∈ members, member.2.tree.value? = some member.2) :
    (memberTrees members).values? = some members := by
  induction members with
  | nil => rfl
  | cons member members ih =>
    obtain ⟨hvalue, hmembers⟩ := List.forall_mem_cons.mp h
    rw [memberTrees, MemberTrees.values?, hvalue, ih hmembers]
    rfl

theorem Ordered.value?_tree {value : Value} (h : value.Ordered) :
    value.tree.value? = some value := by
  induction h with
  | null | bool | number | string => rfl
  | array _ ih => rw [tree, Tree.value?, values?_itemTrees ih, Option.map_some]
  | object hsorted _ ih =>
    rw [tree, Tree.value?, values?_memberTrees ih, Option.map_some,
      Members.ofList_of_sorted hsorted]

end Value

end MailTemplate.Json
