import Mathlib.Data.List.Nodup
import Mathlib.Data.List.Perm.Basic
import MailTemplate.Proofs.Json.Printed

/-! # Members of an object

What the members of an object say under a name (`Tree.Gives`), with a place for each of the known
names at most (`Tree.Once`). Both stay as they are if the members are put into another order
(`Tree.Gives.rearranged`, `Tree.Once.rearranged`). -/

namespace MailTemplate.Json

namespace Tree

/-- The names of members. -/
abbrev names (members : List (String × Tree)) : List String :=
  members.map Prod.fst

/-- The member with the name says what is given, or there is none and nothing is given. -/
def Gives {β : Type} (members : List (String × Tree)) (name : String)
    (means : Tree → β → Prop) : Option β → Prop
  | none => name ∉ names members
  | some b => ∃ tree, (name, tree) ∈ members ∧ means tree b

/-- Each of these names stands at most once among the members. -/
def Once (known : List String) (members : List (String × Tree)) : Prop :=
  ∀ name ∈ known, (names members).count name ≤ 1

def IsObject (holds : List (String × Tree) → Prop) (tree : Tree) : Prop :=
  ∃ members, tree = .object (.ofList members) ∧ holds members

section

variable {members others : List (String × Tree)} {name : String}

theorem Once.eq {known : List String} (h : Once known members) (hname : name ∈ known)
    {tree other : Tree} (htree : (name, tree) ∈ members) (hother : (name, other) ∈ members) :
    tree = other := by
  obtain ⟨before, behind, rfl⟩ := List.append_of_mem htree
  have hcount := h name hname
  simp only [names, List.map_append, List.map_cons, List.count_append,
    List.count_cons_self] at hcount
  have hbefore : name ∉ names before := List.count_eq_zero.mp (by simp only [names]; omega)
  have hbehind : name ∉ names behind := List.count_eq_zero.mp (by simp only [names]; omega)
  rcases List.mem_append.mp hother with hmem | hmem
  · exact absurd (List.mem_map_of_mem hmem) hbefore
  · rcases List.mem_cons.mp hmem with heq | hmem
    · exact (Prod.mk.inj heq).2.symm
    · exact absurd (List.mem_map_of_mem hmem) hbehind

theorem Gives.map {β γ : Type} {means : Tree → β → Prop} {means' : Tree → γ → Prop}
    {given : Option β} (h : Gives members name means given) (f : β → γ)
    (himp : ∀ tree b, (name, tree) ∈ members → means tree b → means' tree (f b)) :
    Gives members name means' (given.map f) := by
  cases given with
  | none => exact h
  | some b =>
    obtain ⟨tree, hmem, hmeans⟩ := h
    exact ⟨tree, hmem, himp tree b hmem hmeans⟩

theorem Gives.imp {β : Type} {means means' : Tree → β → Prop} {given : Option β}
    (h : Gives members name means given)
    (himp : ∀ tree b, (name, tree) ∈ members → means tree b → means' tree b) :
    Gives members name means' given := by
  simpa using h.map id himp

/-! ## Members as a tree -/

theorem depth_ofList (members : List (String × Tree)) :
    (MemberTrees.ofList members).depth =
      (members.map fun member => member.2.depth).foldr max 0 := by
  induction members with
  | nil => rfl
  | cons member members ih => rw [MemberTrees.ofList, MemberTrees.depth, ih]; rfl

theorem depth_le_of_mem {member : String × Tree} (h : member ∈ members) :
    member.2.depth ≤ (MemberTrees.ofList members).depth := by
  induction members with
  | nil => cases h
  | cons first members ih =>
    rw [MemberTrees.ofList, MemberTrees.depth]
    rcases List.mem_cons.mp h with rfl | hmem
    · exact Nat.le_max_left ..
    · exact Nat.le_trans (ih hmem) (Nat.le_max_right ..)

theorem pass_of_passMembers (h : passMembers (.ofList members) = .ok ()) :
    ∀ member ∈ members, member.2.pass = .ok () := by
  induction members with
  | nil => exact List.forall_mem_nil _
  | cons member members ih =>
    rw [MemberTrees.ofList, passMembers] at h
    cases hvalue : member.2.pass with
    | error fault =>
      rw [hvalue] at h
      cases h
    | ok =>
      rw [hvalue] at h
      exact List.forall_mem_cons.mpr ⟨hvalue, ih h⟩

theorem ofList_injective (h : MemberTrees.ofList members = MemberTrees.ofList others) :
    members = others := by
  induction members generalizing others with
  | nil =>
    cases others with
    | nil => rfl
    | cons => cases h
  | cons member members ih =>
    cases others with
    | nil => cases h
    | cons other others =>
      simp only [MemberTrees.ofList, MemberTrees.member.injEq, Quoted.mk.injEq,
        Except.ok.injEq] at h
      obtain ⟨⟨hname, _⟩, htree, hrest⟩ := h
      rw [ih hrest, Prod.ext hname htree]

end

/-! ## The order of the members -/

/-- The same members in another order, also inside of the objects among them, but not inside of a
member with the name `fixed`. -/
inductive Rearranged (fixed : String) : List (String × Tree) → List (String × Tree) → Prop
  | perm {members others : List (String × Tree)} : others.Perm members →
      Rearranged fixed members others
  | inside {before behind members others : List (String × Tree)} {name : String} : name ≠ fixed →
      Rearranged fixed members others →
      Rearranged fixed (before ++ (name, .object (.ofList members)) :: behind)
        (before ++ (name, .object (.ofList others)) :: behind)
  | trans {members between others : List (String × Tree)} : Rearranged fixed members between →
      Rearranged fixed between others → Rearranged fixed members others

/-- What an object means does not depend on the order of its members. -/
def Unordered {β : Type} (fixed : String) (means : Tree → β → Prop) : Prop :=
  ∀ members others b, Rearranged fixed members others → means (.object (.ofList members)) b →
    means (.object (.ofList others)) b

section

variable {fixed name : String} {members others : List (String × Tree)}

theorem Rearranged.names (h : Rearranged fixed members others) :
    (Tree.names others).Perm (Tree.names members) := by
  induction h with
  | perm hperm => exact hperm.map Prod.fst
  | inside => simp [Tree.names]
  | trans _ _ ih ih' => exact ih'.trans ih

theorem Rearranged.depth (h : Rearranged fixed members others) :
    (MemberTrees.ofList others).depth = (MemberTrees.ofList members).depth := by
  induction h with
  | perm hperm =>
    rw [depth_ofList, depth_ofList]
    exact (hperm.map _).foldr_eq 0
  | inside _ _ ih => simp [depth_ofList, Tree.depth, ← ih]
  | trans _ _ ih ih' => rw [ih', ih]

theorem Once.rearranged {known : List String} (h : Once known members)
    (hr : Rearranged fixed members others) : Once known others := by
  intro name hname
  rw [hr.names.count_eq]
  exact h name hname

theorem Gives.rearranged {β : Type} {means : Tree → β → Prop} {given : Option β}
    (h : Gives members name means given) (hr : Rearranged fixed members others)
    (hmeans : name ≠ fixed → Unordered fixed means) : Gives others name means given := by
  cases given with
  | none => exact fun hmem => h (hr.names.mem_iff.mp hmem)
  | some b =>
    induction hr with
    | perm hperm =>
      obtain ⟨tree, hmem, hb⟩ := h
      exact ⟨tree, hperm.mem_iff.mpr hmem, hb⟩
    -- the member that says it may be the very one that is rearranged inside
    | @inside before behind inner others other hother hinner _ =>
      obtain ⟨tree, hmem, hb⟩ := h
      rcases List.mem_append.mp hmem with hbefore | hmem
      · exact ⟨tree, List.mem_append_left _ hbefore, hb⟩
      rcases List.mem_cons.mp hmem with heq | hbehind
      · obtain ⟨rfl, rfl⟩ := Prod.mk.inj heq
        exact ⟨_, List.mem_append_right _ List.mem_cons_self,
          hmeans hother inner others b hinner hb⟩
      · exact ⟨tree, List.mem_append_right _ (List.mem_cons_of_mem _ hbehind), hb⟩
    | trans _ _ ih ih' => exact ih' (ih h)

theorem unordered_value {β : Type} {toValue : β → Value}
    (h : ∀ b, (toValue b).Simple) :
    Unordered fixed fun tree b => tree.value? = some (toValue b) := by
  intro members others b _ hvalue
  obtain ⟨values, _, hobject⟩ := Option.map_eq_some_iff.mp hvalue
  exact absurd hobject.symm ((h b).ne_object _)

theorem unordered_isObject {β : Type} {holds : β → List (String × Tree) → Prop}
    (h : ∀ b {members others}, holds b members → Rearranged fixed members others →
      holds b others) :
    Unordered fixed fun tree b => IsObject (holds b) tree := by
  rintro members others b hr ⟨inner, heq, hholds⟩
  obtain rfl := ofList_injective (Tree.object.inj heq)
  exact ⟨others, rfl, h b hholds hr⟩

end

end Tree

/-! ## Members of a value -/

open Json.Tree

/-- What the members of a value say. -/
def Members.trees (members : Members) : List (String × Tree) :=
  members.map fun member => (member.1, member.2.tree)

theorem Value.tree_object (members : Members) :
    (Value.object members).tree = .object (.ofList members.trees) := by
  rw [tree, memberTrees_eq, Members.trees]

theorem Members.gives {β : Type} {members : Members} {name : String} {value : Value}
    {means : Tree → β → Prop} {b : β} (hmem : (name, value) ∈ members)
    (hmeans : means value.tree b) : Gives members.trees name means (some b) :=
  ⟨value.tree, List.mem_map_of_mem hmem, hmeans⟩

theorem Members.once {members : Members} (h : (members.map Prod.fst).Nodup)
    (known : List String) : Once known members.trees := by
  intro name _
  have hnames : names members.trees = members.map Prod.fst := by simp [trees, names]
  rw [hnames]
  exact List.nodup_iff_count_le_one.mp h name

end MailTemplate.Json
