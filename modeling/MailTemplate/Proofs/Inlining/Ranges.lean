import MailTemplate.Proofs.Inlining.Positions

/-! # The ranges that a scan has found

The scan collects the ranges of the class attributes that it has passed. They are in order, they have
all class names so far, and nothing is in them but class attributes and blanks (`Found`). Each step
of the scan keeps this: it passes a token, it passes an attribute, or it adds a range, which may take
the place of ranges before it (`Found.addClassRange`). -/

namespace MailTemplate.Inlining

open Markup

/-- Ranges of a tag in front of `position`, the last one first. -/
structure InOrder (span : TagSpan) (position : Nat) (ranges : List Range) : Prop where
  ordered : ranges.Pairwise fun later earlier => earlier.stop ≤ later.start
  within : ∀ range ∈ ranges,
    span.tag < range.start ∧ range.start < range.stop ∧ range.stop ≤ position

namespace InOrder

variable {span : TagSpan} {position : Nat} {ranges : List Range}

theorem sublist (h : InOrder span position ranges) {left : List Range}
    (hsub : left.Sublist ranges) : InOrder span position left :=
  ⟨h.ordered.sublist hsub, fun range hmem => h.within range (hsub.mem hmem)⟩

theorem tail {range : Range} (h : InOrder span position (range :: ranges)) :
    InOrder span range.start ranges := by
  obtain ⟨hearlier, hrest⟩ := List.pairwise_cons.mp h.ordered
  refine ⟨hrest, fun other hmem => ?_⟩
  obtain ⟨hfirst, hlast, -⟩ := h.within other (List.mem_cons_of_mem _ hmem)
  exact ⟨hfirst, hlast, hearlier other hmem⟩

theorem tag_lt_floor (h : InOrder span position ranges) :
    span.tag < ranges.head?.elim (span.tag + 1) Range.stop := by
  cases ranges with
  | nil => exact Nat.lt_succ_self _
  | cons last earlier =>
    obtain ⟨hfirst, hlast, -⟩ := h.within last List.mem_cons_self
    exact Nat.lt_trans hfirst hlast

theorem stop_le_floor (h : InOrder span position ranges) :
    ∀ range ∈ ranges, range.stop ≤ ranges.head?.elim (span.tag + 1) Range.stop := by
  cases ranges with
  | nil => exact fun _ hmem => nomatch hmem
  | cons last earlier =>
    refine List.forall_mem_cons.mpr ⟨Nat.le_refl _, fun range hmem => ?_⟩
    have hbefore := (h.tail.within range hmem).2.2
    have hlast := (h.within last List.mem_cons_self).2.1
    exact Nat.le_trans hbefore (Nat.le_of_lt hlast)

end InOrder

/-! ## Joining ranges -/

/-- `left` are the ranges that are left over when those that reach up to `start` are joined, and
`first` is where the joined ones begin. -/
structure Joined (ranges : List Range) (start : Nat) (left : List Range) (first : Nat) : Prop where
  sublist : left.Sublist ranges
  first_le : first ≤ start
  before : ∀ range ∈ left, range.stop ≤ first
  joined : ∀ range ∈ ranges, range ∈ left ∨ first ≤ range.start
  covered : ∀ position, first ≤ position → position < start →
    ∃ range ∈ ranges, range.Contains position

theorem joined_joinAdjacent {span : TagSpan} {ranges : List Range} {start : Nat}
    (h : InOrder span start ranges) :
    Joined ranges start (joinAdjacent ranges start).1 (joinAdjacent ranges start).2 := by
  induction ranges generalizing start with
  | nil =>
    exact ⟨.slnil, Nat.le_refl _, fun _ hmem => (nomatch hmem), fun _ hmem => (nomatch hmem),
      fun _ hfirst hlast => absurd hlast (Nat.not_lt_of_le hfirst)⟩
  | cons range ranges ih =>
    have hrange := (h.within range List.mem_cons_self).2
    rw [joinAdjacent]
    split
    · next hstop =>
      have hstop : range.stop = start := by simpa using hstop
      have hjoin := ih h.tail
      have hfirst := hjoin.first_le
      refine ⟨hjoin.sublist.cons _, by omega, hjoin.before, ?_, ?_⟩
      · exact List.forall_mem_cons.mpr ⟨.inr hfirst, hjoin.joined⟩
      · intro position hafter hlast
        by_cases hposition : position < range.start
        · obtain ⟨other, hmem, hcontains⟩ := hjoin.covered position hafter hposition
          exact ⟨other, List.mem_cons_of_mem _ hmem, hcontains⟩
        · exact ⟨range, List.mem_cons_self, by omega, by omega⟩
    · exact ⟨.refl _, Nat.le_refl _, fun other hmem => (h.within other hmem).2.2,
        fun other hmem => .inl hmem, fun _ hfirst hlast => absurd hlast (Nat.not_lt_of_le hfirst)⟩

theorem Joined.floor_le {span : TagSpan} {ranges left : List Range} {start first : Nat}
    (hjoin : Joined ranges start left first) (h : InOrder span start ranges)
    (htag : span.tag < start) : left.head?.elim (span.tag + 1) Range.stop ≤ first := by
  cases left with
  | cons last earlier => exact hjoin.before last List.mem_cons_self
  | nil =>
    by_cases hfirst : first < start
    · obtain ⟨range, hmem, hcontains⟩ := hjoin.covered first (Nat.le_refl _) hfirst
      exact Nat.lt_of_lt_of_le (h.within range hmem).1 hcontains.1
    · exact Nat.lt_of_lt_of_le htag (Nat.le_of_not_lt hfirst)

/-! ## Steps of the scan -/

/-- A class attribute with the blanks behind it. -/
structure ClassAt (tokens : List Token) (span : TagSpan) (name stop : Nat) : Prop
    extends ClassName tokens span name where
  group : (groupAt tokens span.stop name).stop ≤ stop
  blanks : ∀ position, (groupAt tokens span.stop name).stop ≤ position → position < stop →
    Has tokens position Token.isBlank
  le : stop ≤ span.stop

theorem ClassAt.lt_stop {tokens : List Token} {span : TagSpan} {name stop : Nat}
    (h : ClassAt tokens span name stop) : name < stop :=
  Nat.lt_of_lt_of_le (lt_stop_groupAt tokens span.stop name) h.group

structure Found (tokens : List Token) (span : TagSpan) (position : Nat) (ranges : List Range) : Prop
    extends InOrder span position ranges where
  covers : ∀ name, span.tag < name → name < position → Has tokens name isClassName →
    ∃ range ∈ ranges, range.Contains name
  removable : ∀ range ∈ ranges, ∀ inside, range.Contains inside → Removable tokens span inside

namespace Found

variable {tokens : List Token} {span : TagSpan} {position : Nat} {ranges : List Range}

theorem nil (tokens : List Token) (span : TagSpan) : Found tokens span (span.tag + 1) [] where
  ordered := .nil
  within := fun _ hmem => nomatch hmem
  covers := fun _ hfirst hlast => absurd hlast (by omega)
  removable := fun _ hmem => nomatch hmem

theorem pass (h : Found tokens span position ranges) {next : Nat} (hnext : position ≤ next)
    (hnone : ∀ name, position ≤ name → name < next → ¬ Has tokens name isClassName) :
    Found tokens span next ranges where
  ordered := h.ordered
  within := fun range hmem => by
    obtain ⟨hfirst, hlast, hle⟩ := h.within range hmem
    exact ⟨hfirst, hlast, Nat.le_trans hle hnext⟩
  covers := fun name hfirst hlast hname => by
    by_cases hpassed : name < position
    · exact h.covers name hfirst hpassed hname
    · exact absurd hname (hnone name (Nat.le_of_not_lt hpassed) hlast)
  removable := h.removable

section

variable {name stop first : Nat} {left : List Range}

theorem add (h : Found tokens span name ranges) (hclass : ClassAt tokens span name stop)
    (hsub : left.Sublist ranges) (hbefore : ∀ range ∈ left, range.stop ≤ first)
    (htag : span.tag < first) (hfirst : first ≤ name)
    (hjoined : ∀ range ∈ ranges, range ∈ left ∨ first ≤ range.start)
    (hremovable : ∀ position, first ≤ position → position < name → Removable tokens span position) :
    Found tokens span stop (⟨first, stop⟩ :: left) := by
  have hname := hclass.lt_stop
  refine ⟨⟨.cons hbefore (h.ordered.sublist hsub), ?_⟩, ?_, ?_⟩
  · refine List.forall_mem_cons.mpr ⟨⟨htag, Nat.lt_of_le_of_lt hfirst hname, Nat.le_refl _⟩, ?_⟩
    intro range hmem
    have := h.within range (hsub.mem hmem)
    omega
  · intro other hafter hlast hother
    by_cases hpassed : other < name
    · obtain ⟨range, hmem, hcontains⟩ := h.covers other hafter hpassed hother
      rcases hjoined range hmem with hleft | hstart
      · exact ⟨range, List.mem_cons_of_mem _ hleft, hcontains⟩
      · exact ⟨_, List.mem_cons_self, Nat.le_trans hstart hcontains.1, hlast⟩
    · exact ⟨_, List.mem_cons_self, Nat.le_trans hfirst (Nat.le_of_not_lt hpassed), hlast⟩
  · refine List.forall_mem_cons.mpr ⟨?_, fun range hmem => h.removable range (hsub.mem hmem)⟩
    rintro position ⟨hstart, hlast⟩
    by_cases hpassed : position < name
    · exact hremovable position hstart hpassed
    · by_cases hin : position < (groupAt tokens span.stop name).stop
      · exact .inl ⟨name, hclass.toClassName, Nat.le_of_not_lt hpassed, hin⟩
      · exact .inr (hclass.blanks position (Nat.le_of_not_lt hin) hlast)

/-- The blanks in front of a class attribute and of those that it joins go with it. -/
theorem addLast {floor : Nat} (h : Found tokens span name ranges)
    (hclass : ClassAt tokens span name stop) (hbound : span.stop ≤ tokens.length)
    (hjoin : Joined ranges name left first) (htag : span.tag < floor) (hfloor : floor ≤ first)
    (hleft : ∀ range ∈ left, range.stop ≤ floor) :
    Found tokens span stop
      (⟨first - blankCount (tokens.extract floor first).reverse, stop⟩ :: left) := by
  have hname := hclass.lt_stop
  have hfirst := hjoin.first_le
  have hstop := hclass.le
  have hblanks {position : Nat}
      (hafter : first - blankCount (tokens.extract floor first).reverse ≤ position)
      (hlast : position < first) : floor ≤ position ∧ Has tokens position Token.isBlank :=
    has_blank_before (by omega) hafter hlast
  generalize hstart : first - blankCount (tokens.extract floor first).reverse = start at hblanks ⊢
  have hle : floor ≤ start := by
    by_cases hnone : start < first
    · exact (hblanks (Nat.le_refl _) hnone).1
    · omega
  refine h.add hclass hjoin.sublist (fun range hmem => Nat.le_trans (hleft range hmem) hle)
    (Nat.lt_of_lt_of_le htag hle) (by omega) (fun range hmem => ?_) fun position hafter hlast => ?_
  · exact (hjoin.joined range hmem).imp_right fun hjoined => by omega
  · by_cases hin : position < first
    · exact .inr (hblanks hafter hin).2
    · obtain ⟨range, hmem, hcontains⟩ := hjoin.covered position (Nat.le_of_not_lt hin) hlast
      exact h.removable range hmem position hcontains

theorem addClassRange (h : Found tokens span name ranges) (hclass : ClassAt tokens span name stop)
    (hbound : span.stop ≤ tokens.length) :
    Found tokens span stop (addClassRange tokens span ranges name stop) := by
  unfold Inlining.addClassRange
  split
  · have hjoin := joined_joinAdjacent h.toInOrder
    have hleft := h.toInOrder.sublist hjoin.sublist
    exact h.addLast hclass hbound hjoin hleft.tag_lt_floor
      (hjoin.floor_le h.toInOrder hclass.first) hleft.stop_le_floor
  · refine h.add hclass (.refl _) (fun range hmem => (h.within range hmem).2.2) hclass.first
      (Nat.le_refl _) (fun range hmem => .inl hmem) fun position hfirst hlast => ?_
    exact absurd hlast (Nat.not_lt_of_le hfirst)

end

end Found

end MailTemplate.Inlining
