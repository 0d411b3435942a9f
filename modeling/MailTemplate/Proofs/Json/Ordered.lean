import MailTemplate.Proofs.Json.Meaning

/-! # Objects in order

Members that are in order stay as they are when they are put in one after the other
(`Members.ofList_of_sorted`). All objects that a text says are in order, as they can be read
(`Tree.ordered_of_value?`). -/

namespace MailTemplate.Json

namespace Value

theorem Simple.ordered {value : Value} (h : value.Simple) : value.Ordered := by
  cases h <;> simp

end Value

namespace Members

theorem insert_of_lt {found : Members} {key : String} (h : ∀ member ∈ found, member.1 < key)
    (value : Value) : found.insert key value = found ++ [(key, value)] := by
  induction found with
  | nil => rfl
  | cons member found ih =>
    obtain ⟨hmember, hfound⟩ := List.forall_mem_cons.mp h
    have hne : key ≠ member.1 := fun heq => String.lt_irrefl key (heq ▸ hmember)
    rw [insert, if_neg (String.lt_asymm hmember), if_neg hne, ih hfound, List.cons_append]

/-- Members in order stay as they are. -/
theorem foldl_insert {found members : Members} (h : (found ++ members).Sorted) :
    members.foldl (fun found member => found.insert member.1 member.2) found =
      found ++ members := by
  induction members generalizing found with
  | nil => exact (List.append_nil found).symm
  | cons member members ih =>
    have hlt : ∀ other ∈ found, other.1 < member.1 := by
      intro other hother
      unfold Sorted at h
      rw [List.map_append, List.pairwise_append] at h
      exact h.2.2 _ (List.mem_map_of_mem hother) _ (by simp)
    have happend : found ++ member :: members = found ++ [member] ++ members := by simp
    rw [happend] at h ⊢
    rw [List.foldl_cons, insert_of_lt hlt, ih h]

theorem ofList_of_sorted {members : Members} (h : members.Sorted) : ofList members = members :=
  foldl_insert h

end Members

theorem Tree.ordered_of_value? {tree : Tree} {value : Value} (h : tree.value? = some value) :
    value.Ordered := by
  obtain ⟨found, -, rfl⟩ := exists_decodeValue h (Nat.lt_succ_self tree.depth)
  exact found.ordered

end MailTemplate.Json
