import MailTemplate.Json.Decode

/-! # What a tree means

The value that a tree says, if it says one, and how deep its containers are nested. A decoder that
may go as deep finds this value (`Tree.exists_decodeValue`); the decoders of simple values find it
wherever it is one of theirs. -/

namespace MailTemplate.Json

/-- The last of several members with one key counts. -/
def Members.ofList (members : List (String × Value)) : Members :=
  members.foldl (fun found member => found.insert member.1 member.2) []

/-- A value without parts, and no number with decimals. -/
inductive Value.Simple : Value → Prop
  | null : Simple .null
  | bool {b : Bool} : Simple (.bool b)
  | natural {n : UInt64} : Simple (.number (.natural n))
  | string {text : String} : Simple (.string text)

theorem Value.Simple.ne_object {value : Value} (h : value.Simple) (members : Members) :
    value ≠ .object members := by
  cases h <;> simp

/-- The items of a list that is written to its end. -/
def ItemTrees.ofList : List Tree → ItemTrees
  | [] => .stop .closed
  | value :: items => .item value (ofList items)

def MemberTrees.ofList : List (String × Tree) → MemberTrees
  | [] => .stop .closed
  | (key, value) :: members => .member ⟨.ok key, none⟩ value (ofList members)

mutual

def Tree.depth : Tree → Nat
  | .array items => items.depth + 1
  | .object members => members.depth + 1
  | _ => 0

def ItemTrees.depth : ItemTrees → Nat
  | .stop _ => 0
  | .item value rest => max value.depth rest.depth

def MemberTrees.depth : MemberTrees → Nat
  | .member _ value rest => max value.depth rest.depth
  | _ => 0

end

mutual

/-- A text that ends too early says no value, nor does one with half a character or with a number
that is out of range. -/
def Tree.value? : Tree → Option Value
  | .null => some .null
  | .bool b => some (.bool b)
  | .number n => n.toOption.map .number
  | .string quoted => quoted.text.toOption.map .string
  | .array items => items.values?.map .array
  | .object members => members.values?.map fun values => .object (Members.ofList values)
  | .broken _ => none

def ItemTrees.values? : ItemTrees → Option (List Value)
  | .stop .closed => some []
  | .stop _ => none
  | .item value rest => do
    let value ← value.value?
    return value :: (← rest.values?)

def MemberTrees.values? : MemberTrees → Option (List (String × Value))
  | .stop .closed => some []
  | .member key value rest => do
    let key ← key.text.toOption
    let value ← value.value?
    return (key, value) :: (← rest.values?)
  | _ => none

end

theorem toOption_eq_some {ε α : Type} {result : Except ε α} {a : α} :
    result.toOption = some a ↔ result = .ok a := by
  cases result <;> simp [Except.toOption]

theorem exists_of_bind {α β : Type} {x : Decoded α} {f : α → Decoded β} {b : β}
    (h : x >>= f = .ok b) : ∃ a, x = .ok a ∧ f a = .ok b := by
  cases x with
  | error fault => cases h
  | ok a => exact ⟨a, rfl, h⟩

theorem map_eq_ok {α β : Type} {x : Decoded α} {f : α → β} {b : β} (h : x.map f = .ok b) :
    ∃ a, x = .ok a ∧ f a = b := by
  cases x with
  | error fault => cases h
  | ok a => exact ⟨a, rfl, Except.ok.inj h⟩

namespace Tree

/-! ## Trees of simple values -/

section

variable {tree : Tree}

theorem eq_null_of_value? (h : tree.value? = some .null) : tree = .null := by
  cases tree <;> simp_all [value?]

theorem eq_bool_of_value? {b : Bool} (h : tree.value? = some (.bool b)) : tree = .bool b := by
  cases tree <;> simp_all [value?]

theorem eq_number_of_value? {n : Number} (h : tree.value? = some (.number n)) :
    tree = .number (.ok n) := by
  cases tree <;> simp_all [value?, toOption_eq_some]

theorem eq_string_of_value? {text : String} (h : tree.value? = some (.string text)) :
    ∃ fault, tree = .string ⟨.ok text, fault⟩ := by
  cases tree with
  | string quoted =>
    obtain ⟨found, fault⟩ := quoted
    simp_all [value?, toOption_eq_some]
  | _ => simp_all [value?]

theorem eq_object_of_value? {members : Members} (h : tree.value? = some (.object members)) :
    ∃ trees values, tree = .object trees ∧ trees.values? = some values ∧
      members = Members.ofList values := by
  cases tree with
  | object trees =>
    obtain ⟨values, hvalues, hmembers⟩ := Option.map_eq_some_iff.mp h
    exact ⟨trees, values, rfl, hvalues, (Value.object.inj hmembers).symm⟩
  | _ => simp_all [value?]

end

/-! ## Decoding values -/

theorem descend_eq {depth inner : Nat} (h : inner + 1 < depth) :
    descend depth = .ok (depth - 1) ∧ inner < depth - 1 := by
  refine ⟨?_, by omega⟩
  rw [descend, if_neg (by omega)]

mutual

theorem exists_decodeValue {tree : Tree} {value : Value} (h : tree.value? = some value)
    {depth : Nat} (hdepth : tree.depth < depth) :
    ∃ found, decodeValue depth tree = .ok found ∧ found.value = value := by
  cases tree with
  | null | bool =>
    cases h
    exact ⟨_, rfl, rfl⟩
  | number n =>
    obtain ⟨n, hn, rfl⟩ := Option.map_eq_some_iff.mp h
    obtain rfl := toOption_eq_some.mp hn
    exact ⟨_, rfl, rfl⟩
  | string quoted =>
    obtain ⟨text, htext, rfl⟩ := Option.map_eq_some_iff.mp h
    rw [decodeValue, toOption_eq_some.mp htext]
    exact ⟨_, rfl, rfl⟩
  | array items =>
    obtain ⟨values, hvalues, rfl⟩ := Option.map_eq_some_iff.mp h
    obtain ⟨hdescend, hinner⟩ := descend_eq hdepth
    obtain ⟨found, hfound, rfl⟩ := exists_decodeItems hvalues hinner
    rw [decodeValue, hdescend]
    simp only [bind, Except.bind]
    rw [hfound]
    exact ⟨_, rfl, rfl⟩
  | object members =>
    obtain ⟨values, hvalues, rfl⟩ := Option.map_eq_some_iff.mp h
    obtain ⟨hdescend, hinner⟩ := descend_eq hdepth
    obtain ⟨found, hfound, hmembers⟩ := exists_decodeMembers hvalues hinner []
    rw [decodeValue, hdescend]
    simp only [bind, Except.bind]
    rw [hfound]
    exact ⟨_, rfl, congrArg Value.object hmembers⟩
  | broken fault => cases h

theorem exists_decodeItems {items : ItemTrees} {values : List Value}
    (h : items.values? = some values) {depth : Nat} (hdepth : items.depth < depth) :
    ∃ found, decodeItems depth items = .ok found ∧ found.map OrderedValue.value = values := by
  cases items with
  | stop stop =>
    cases stop <;> cases h
    exact ⟨_, rfl, rfl⟩
  | item value rest =>
    obtain ⟨first, hfirst, h⟩ := Option.bind_eq_some_iff.mp h
    obtain ⟨more, hmore, hvalues⟩ := Option.bind_eq_some_iff.mp h
    obtain rfl := Option.some.inj hvalues
    obtain ⟨hvalue, hrest⟩ := Nat.max_lt.mp hdepth
    obtain ⟨found, hfound, rfl⟩ := exists_decodeValue hfirst hvalue
    obtain ⟨others, hothers, rfl⟩ := exists_decodeItems hmore hrest
    rw [decodeItems, hfound, hothers]
    exact ⟨_, rfl, rfl⟩

theorem exists_decodeMembers {members : MemberTrees} {values : List (String × Value)}
    (h : members.values? = some values) {depth : Nat} (hdepth : members.depth < depth)
    (before : OrderedMembers) :
    ∃ found, decodeMembers depth before members = .ok found ∧
      found.members =
        values.foldl (fun found member => found.insert member.1 member.2) before.members := by
  cases members with
  | stop stop =>
    cases stop <;> cases h
    exact ⟨_, rfl, rfl⟩
  | noKey | keyOnly => cases h
  | member key value rest =>
    obtain ⟨name, hname, h⟩ := Option.bind_eq_some_iff.mp h
    obtain ⟨first, hfirst, h⟩ := Option.bind_eq_some_iff.mp h
    obtain ⟨more, hmore, hvalues⟩ := Option.bind_eq_some_iff.mp h
    obtain rfl := Option.some.inj hvalues
    obtain ⟨hvalue, hrest⟩ := Nat.max_lt.mp hdepth
    obtain ⟨found, hfound, rfl⟩ := exists_decodeValue hfirst hvalue
    rw [decodeMembers, toOption_eq_some.mp hname, hfound]
    exact exists_decodeMembers hmore hrest (before.insert name found)

end

/-! ## Decoding simple values -/

section

variable {tree : Tree} (depth : Nat)

theorem decodeBool_eq {b : Bool} (h : tree.value? = some (.bool b)) :
    decodeBool depth tree = .ok b := by
  rw [eq_bool_of_value? h]
  rfl

theorem decodeString_eq {text : String} (h : tree.value? = some (.string text))
    (wanted : String) : decodeString wanted depth tree = .ok text := by
  obtain ⟨fault, rfl⟩ := eq_string_of_value? h
  rfl

theorem decodeNat_eq {n : UInt64} (h : tree.value? = some (.number (.natural n))) {bound : Nat}
    (hn : n.toNat < bound) (wanted : String) : decodeNat wanted bound depth tree = .ok n.toNat := by
  rw [eq_number_of_value? h]
  exact if_pos hn

theorem decodeOption_null {α : Type} (decode : Decoder α) (h : tree.value? = some .null) :
    decodeOption decode depth tree = .ok none := by
  rw [eq_null_of_value? h]
  rfl

theorem decodeOption_eq {α : Type} {decode : Decoder α} {a : α} (hnull : tree ≠ .null)
    (h : decode depth tree = .ok a) : decodeOption decode depth tree = .ok (some a) := by
  cases tree with
  | null => exact absurd rfl hnull
  | _ => simp [decodeOption, h, Except.map]

end

theorem decodeObject_eq {tree : Tree} {members : OrderedMembers}
    (h : tree.value? = some (.object members)) {depth : Nat} (hdepth : tree.depth < depth) :
    decodeObject depth tree = .ok members := by
  obtain ⟨trees, values, rfl, hvalues, hmembers⟩ := eq_object_of_value? h
  obtain ⟨hdescend, hinner⟩ := descend_eq hdepth
  obtain ⟨found, hfound, hfold⟩ := exists_decodeMembers hvalues hinner []
  rw [decodeObject, hdescend]
  exact hfound.trans (congrArg Except.ok (OrderedMembers.ext (hfold.trans hmembers.symm)))

end Tree

end MailTemplate.Json
