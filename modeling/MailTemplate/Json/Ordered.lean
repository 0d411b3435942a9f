import MailTemplate.Json.Value

/-! Values with their objects in order: the members are sorted by their keys, each of which occurs
once. -/

namespace MailTemplate.Json

/-- Whether the keys increase. -/
def Members.Sorted (members : Members) : Prop :=
  (members.map Prod.fst).Pairwise (· < ·)

namespace Value

/-- The keys of every object in the value increase. -/
inductive Ordered : Value → Prop
  | null : Ordered .null
  | bool {b : Bool} : Ordered (.bool b)
  | number {n : Number} : Ordered (.number n)
  | string {text : String} : Ordered (.string text)
  | array {items : List Value} : (∀ item ∈ items, Ordered item) → Ordered (.array items)
  | object {members : Members} : members.Sorted → (∀ member ∈ members, Ordered member.2) →
      Ordered (.object members)

attribute [simp] Ordered.null Ordered.bool Ordered.number Ordered.string

section

variable {items : List Value} {members : Members}

@[simp] theorem ordered_array : (array items).Ordered ↔ ∀ item ∈ items, item.Ordered :=
  ⟨fun h => by cases h; assumption, .array⟩

@[simp] theorem ordered_object :
    (object members).Ordered ↔ members.Sorted ∧ ∀ member ∈ members, member.2.Ordered :=
  ⟨fun h => by cases h; exact ⟨‹_›, ‹_›⟩, fun h => .object h.1 h.2⟩

end

end Value

namespace Members

theorem forall_insert {holds : String × Value → Prop} {found : Members} {key : String}
    {value : Value} (hfound : ∀ member ∈ found, holds member) (hnew : holds (key, value)) :
    ∀ member ∈ found.insert key value, holds member := by
  induction found with
  | nil => exact List.forall_mem_cons.mpr ⟨hnew, hfound⟩
  | cons other found ih =>
    obtain ⟨hother, hrest⟩ := List.forall_mem_cons.mp hfound
    rw [insert]
    split
    · exact List.forall_mem_cons.mpr ⟨hnew, hfound⟩
    · split
      · exact List.forall_mem_cons.mpr ⟨hnew, hrest⟩
      · exact List.forall_mem_cons.mpr ⟨hother, ih hrest⟩

theorem sorted_cons {member : String × Value} {members : Members} :
    Sorted (member :: members) ↔ (∀ other ∈ members, member.1 < other.1) ∧ members.Sorted := by
  rw [Sorted, List.map_cons, List.pairwise_cons, List.forall_mem_map, Sorted]

theorem Sorted.insert {found : Members} (h : found.Sorted) (key : String) (value : Value) :
    (found.insert key value).Sorted := by
  induction found with
  | nil => exact sorted_cons.mpr ⟨List.forall_mem_nil _, h⟩
  | cons other found ih =>
    obtain ⟨hless, hfound⟩ := sorted_cons.mp h
    rw [Members.insert]
    split
    · next hbefore =>
      refine sorted_cons.mpr ⟨List.forall_mem_cons.mpr ⟨hbefore, ?_⟩, h⟩
      exact fun member hmember => String.lt_trans hbefore (hless member hmember)
    · next hbefore =>
      split
      · next hsame => exact sorted_cons.mpr ⟨hsame ▸ hless, hfound⟩
      · next hsame =>
        have hbehind : other.1 < key :=
          Std.lt_of_le_of_ne (String.not_lt.mp hbefore) (Ne.symm hsame)
        exact sorted_cons.mpr ⟨forall_insert hless hbehind, ih hfound⟩

end Members

/-- A value in which all objects are in order. -/
structure OrderedValue where
  value : Value
  ordered : value.Ordered

/-- Members that are in order, as all objects in them are. -/
@[ext]
structure OrderedMembers where
  members : Members
  ordered : (Value.object members).Ordered

instance : CoeOut OrderedValue Value := ⟨OrderedValue.value⟩

instance : CoeOut OrderedMembers Members := ⟨OrderedMembers.members⟩

namespace OrderedMembers

def empty : OrderedMembers :=
  ⟨[], .object .nil (List.forall_mem_nil _)⟩

instance : Inhabited OrderedMembers := ⟨empty⟩

instance {α : Type} : CoeDep (List α) [] OrderedMembers := ⟨empty⟩

def insert (found : OrderedMembers) (key : String) (value : OrderedValue) : OrderedMembers where
  members := Members.insert key value found.members
  ordered :=
    have ⟨hsorted, hmembers⟩ := Value.ordered_object.mp found.ordered
    .object (hsorted.insert key value) (Members.forall_insert hmembers value.ordered)

end OrderedMembers

namespace OrderedValue

def array (items : List OrderedValue) : OrderedValue where
  value := .array (items.map value)
  ordered := .array (List.forall_mem_map.mpr fun item _ => item.ordered)

def object (members : OrderedMembers) : OrderedValue where
  value := .object members
  ordered := members.ordered

end OrderedValue

end MailTemplate.Json
