import MailTemplate.Proofs.Inlining.Ranges

/-! # What a scan finds is safe to edit

The scan of a tag finds ranges that lie in the tag, one behind the other, and a `style` attribute
outside of them (`SafeScan`). This is so for all tokens and every span within them, whether or not
a text has such tokens (`safeScan`). -/

namespace MailTemplate.Inlining

open Markup

def isStyleName (token : Token) : Bool :=
  isOf .attributeName "style" token

theorem isStyleName_eq (token : Token) :
    isStyleName token = (token.kind == .attributeName && token.isNamed "style") := rfl

theorem not_isClassName_of_isStyleName {token : Token} (h : isStyleName token = true) :
    isClassName token = false := by
  simp only [isStyleName, isOf, Bool.and_eq_true, beq_iff_eq] at h
  rw [isClassName, isOf, h.2, Bool.and_eq_false_iff]
  exact .inr (by decide)

theorem ClassName.classAt {tokens : List Token} {span : TagSpan} {name : Nat}
    (h : ClassName tokens span name) :
    let group := groupAt tokens span.stop name
    ClassAt tokens span name
      (group.stop + blankCount (tokens.extract group.stop span.stop)) := by
  intro group
  have hgroup : group.stop ≤ span.stop := stop_groupAt_le h.last
  refine ⟨h, Nat.le_add_right _ _, fun _ hfirst hlast => (has_blank_behind hfirst hlast).2, ?_⟩
  by_contra hle
  have hstop := (has_blank_behind hgroup (Nat.lt_of_not_le hle)).1
  omega

/-- What is found is the end of a `style` attribute of the tag. -/
def StyleAt (tokens : List Token) (span : TagSpan) (style : StyleAttribute) : Prop :=
  ∃ name, span.tag < name ∧ name < span.stop ∧ Has tokens name isStyleName ∧
    (groupAt tokens span.stop name).stop = style.last + 1

/-- What holds when the scan has come to `position`. -/
structure Sound (tokens : List Token) (span : TagSpan) (position : Nat) (found : TagAttributes) :
    Prop where
  first : span.tag < position
  last : position ≤ span.stop
  ranges : Found tokens span position found.classRanges
  style : ∀ style, found.style = some style → StyleAt tokens span style

namespace Sound

variable {tokens : List Token} {span : TagSpan} {position : Nat} {found : TagAttributes}

theorem start (tokens : List Token) {span : TagSpan} (hlt : span.tag < span.stop) :
    Sound tokens span (span.tag + 1) {} where
  first := Nat.lt_succ_self _
  last := hlt
  ranges := .nil tokens span
  style := fun _ h => nomatch h

theorem passToken (h : Sound tokens span position found) (hlt : position < span.stop)
    {token : Token} (hget : tokens[position]? = some token) (hkind : token.kind ≠ .attributeName) :
    Sound tokens span (position + 1) found where
  first := Nat.lt_succ_of_lt h.first
  last := hlt
  ranges := by
    refine h.ranges.pass (Nat.le_succ position) fun name hfirst hlast => ?_
    obtain rfl : position = name := by omega
    rw [has_iff hget]
    exact fun hclass => hkind (eq_of_beq (isName_of_isOf hclass))
  style := h.style

theorem passGroup (h : Sound tokens span position found) (hlt : position < span.stop)
    {token : Token} (hget : tokens[position]? = some token)
    (hclass : ¬ token.isNamed "class" = true) :
    Sound tokens span (groupAt tokens span.stop position).stop found where
  first := h.first.trans (lt_stop_groupAt tokens span.stop position)
  last := stop_groupAt_le hlt
  ranges := by
    have hafter := lt_stop_groupAt tokens span.stop position
    refine h.ranges.pass (Nat.le_of_lt hafter) fun name hfirst hlast hname => ?_
    by_cases heq : name = position
    · subst heq
      rw [has_iff hget, isClassName_eq, Bool.and_eq_true] at hname
      exact hclass hname.2
    · have hin : InGroup tokens span.stop position name := ⟨hfirst, hlast⟩
      have hisName := hname.imp fun _ => isName_of_isOf
      exact hisName.not (fun _ => not_continuesGroup_of_isName) (hin.continues heq)
  style := h.style

theorem withStyle (h : Sound tokens span position found) (hlt : position < span.stop)
    (hname : Has tokens position isStyleName) :
    Sound tokens span position (found.withStyle position (groupAt tokens span.stop position)) := by
  unfold TagAttributes.withStyle
  split
  · exact h
  · refine ⟨h.first, h.last, h.ranges, fun style heq => ⟨position, h.first, hlt, hname, ?_⟩⟩
    obtain rfl := Option.some.inj heq
    have hafter := lt_stop_groupAt tokens span.stop position
    split
    · next hvalue => exact value_groupAt hvalue
    · simp only [StyleAttribute.last]
      omega

theorem withClass (h : Sound tokens span position found) (hbound : span.stop ≤ tokens.length)
    (hlt : position < span.stop) (hname : Has tokens position isClassName) :
    let group := groupAt tokens span.stop position
    let stop := group.stop + blankCount (tokens.extract group.stop span.stop)
    Sound tokens span stop (found.withClass tokens span position stop group.value) := by
  intro group stop
  have hclass : ClassAt tokens span position stop := ClassName.classAt ⟨h.first, hlt, hname⟩
  exact ⟨h.first.trans hclass.lt_stop, hclass.le, h.ranges.addClassRange hclass hbound, h.style⟩

/-- The scan goes on to the end of the tag. -/
theorem run (h : Sound tokens span position found) (hbound : span.stop ≤ tokens.length) :
    Sound tokens span span.stop (scanFrom tokens span position found) := by
  fun_induction scanFrom tokens span position found with
  | case1 position found hlt hnone =>
    have := List.getElem?_eq_none_iff.mp hnone
    omega
  | case2 position found hlt token hget hkind ih =>
    exact ih (h.passToken hlt hget (by simpa using hkind))
  | case3 position found hlt token hget hkind group hafter hclass stop ih =>
    exact ih (h.withClass hbound hlt ⟨token, hget, by simp_all [isClassName_eq]⟩)
  | case4 position found hlt token hget hkind group hafter hclass hstyle ih =>
    have hname : Has tokens position isStyleName := ⟨token, hget, by simp_all [isStyleName_eq]⟩
    exact ih ((h.withStyle hlt hname).passGroup hlt hget hclass)
  | case5 position found hlt token hget hkind group hafter hclass hstyle ih =>
    exact ih (h.passGroup hlt hget hclass)
  | case6 position found hlt => rwa [Nat.le_antisymm h.last (Nat.le_of_not_lt hlt)] at h

end Sound

/-! ## Ranges of a whole tag -/

/-- Ranges of a tag, one behind the other. -/
structure Increasing (span : TagSpan) (ranges : List Range) : Prop where
  ordered : ranges.Pairwise fun earlier later => earlier.stop ≤ later.start
  within : ∀ range ∈ ranges,
    span.tag + 1 ≤ range.start ∧ range.start < range.stop ∧ range.stop ≤ span.stop

/-- A position of a tag that is in no range. -/
structure Outside (span : TagSpan) (ranges : List Range) (position : Nat) : Prop where
  first : span.tag < position
  last : position < span.stop
  apart : ∀ range ∈ ranges, ¬ range.Contains position

/-- A tag that `count` tokens are put into. -/
def grown (span : TagSpan) (count : Nat) : TagSpan :=
  ⟨span.tag, span.stop + count⟩

section

variable {span : TagSpan} {ranges : List Range} {last : Nat}

theorem start_shift (range : Range) (count : Nat) :
    (range.shift count).start = range.start + count := rfl

theorem stop_shift (range : Range) (count : Nat) :
    (range.shift count).stop = range.stop + count := rfl

theorem Increasing.shiftAfter (h : Increasing span ranges) (last count : Nat) :
    Increasing (grown span count) (shiftAfter last count ranges) := by
  constructor
  · refine List.pairwise_map.mpr (h.ordered.imp_of_mem fun {earlier later} hmem _ hle => ?_)
    have hwithin := h.within earlier hmem
    have hearlier := stop_shift earlier count
    have hlater := start_shift later count
    split <;> split <;> omega
  · refine List.forall_mem_map.mpr fun range hmem => ?_
    have hwithin := h.within range hmem
    have hstart := start_shift range count
    have hstop := stop_shift range count
    simp only [grown]
    split <;> omega

theorem Outside.shiftAfter (h : Outside span ranges last) {count position : Nat}
    (hfirst : last ≤ position) (hlast : position ≤ last + count) :
    Outside (grown span count) (shiftAfter last count ranges) position where
  first := Nat.lt_of_lt_of_le h.first hfirst
  last := Nat.lt_of_le_of_lt hlast (Nat.add_lt_add_right h.last count)
  apart := by
    refine List.forall_mem_map.mpr fun range hmem => ?_
    have hapart := h.apart range hmem
    have hstart := start_shift range count
    unfold Range.Contains at hapart ⊢
    split <;> omega

end

/-- What the edits of a tag rely on. -/
structure SafeScan (tokens : List Token) (span : TagSpan) (found : TagAttributes) : Prop where
  increasing : Increasing span found.classRanges
  covers : ∀ name, ClassName tokens span name → ∃ range ∈ found.classRanges, range.Contains name
  removable : ∀ range ∈ found.classRanges, ∀ position, range.Contains position →
    Removable tokens span position
  /-- The tokens of other attributes are in no range. -/
  spares : ∀ name position, Has tokens name isName → ¬ Has tokens name isClassName →
    InGroup tokens span.stop name position →
      ∀ range ∈ found.classRanges, ¬ range.Contains position
  style : ∀ style, found.style = some style → Outside span found.classRanges style.last
  /-- A `style` attribute that has been completed is in no range, with what it got. -/
  completed : ∀ last hasEquals declarations, found.style = some (.bare last hasEquals) →
    let count := (completion hasEquals declarations).length
    Increasing (grown span count) (shiftAfter last count found.classRanges) ∧
      ∀ position, last ≤ position → position ≤ last + count →
        Outside (grown span count) (shiftAfter last count found.classRanges) position

theorem StyleAt.group {tokens : List Token} {span : TagSpan} {style : StyleAttribute}
    (h : StyleAt tokens span style) :
    ∃ name, span.tag < name ∧ Has tokens name isName ∧ ¬ Has tokens name isClassName ∧
      InGroup tokens span.stop name style.last ∧ style.last < span.stop := by
  obtain ⟨name, hfirst, hlast, hname, hstop⟩ := h
  have hlt := lt_stop_groupAt tokens span.stop name
  have hle : (groupAt tokens span.stop name).stop ≤ span.stop := stop_groupAt_le hlast
  exact ⟨name, hfirst, hname.imp fun _ => isName_of_isOf,
    hname.not fun _ => not_isClassName_of_isStyleName, ⟨by omega, by omega⟩, by omega⟩

theorem safeScan {tokens : List Token} {span : TagSpan} (hlt : span.tag < span.stop)
    (hle : span.stop ≤ tokens.length) : SafeScan tokens span (scanAttributes tokens span) := by
  obtain ⟨-, -, hfound, hstyle⟩ := (Sound.start tokens hlt).run hle
  unfold scanAttributes
  generalize scanFrom tokens span (span.tag + 1) {} = found at hfound hstyle ⊢
  have hmem {range : Range} : range ∈ found.classRanges.reverse ↔ range ∈ found.classRanges :=
    List.mem_reverse
  have hincreasing : Increasing span found.classRanges.reverse :=
    ⟨List.pairwise_reverse.mpr hfound.ordered, fun range h => hfound.within range (hmem.mp h)⟩
  have hspares (name position : Nat) (hname : Has tokens name isName)
      (hclass : ¬ Has tokens name isClassName) (hin : InGroup tokens span.stop name position) :
      ∀ range ∈ found.classRanges.reverse, ¬ range.Contains position := by
    intro range h hcontains
    exact hin.not_removable hname hclass (hfound.removable range (hmem.mp h) position hcontains)
  have houtside (style : StyleAttribute) (h : found.style = some style) :
      Outside span found.classRanges.reverse style.last := by
    obtain ⟨name, hfirst, hname, hclass, hin, hlast⟩ := (hstyle style h).group
    exact ⟨Nat.lt_of_lt_of_le hfirst hin.1, hlast, hspares name _ hname hclass hin⟩
  refine ⟨hincreasing, fun name hname => ?_, fun range h => hfound.removable range (hmem.mp h),
    hspares, houtside, fun last hasEquals declarations h => ?_⟩
  · obtain ⟨range, h, hcontains⟩ := hfound.covers name hname.first hname.last hname.isClass
    exact ⟨range, hmem.mpr h, hcontains⟩
  · exact ⟨hincreasing.shiftAfter last _, fun position => (houtside _ h).shiftAfter⟩

end MailTemplate.Inlining
