import Mathlib.Data.List.DropRight
import MailTemplate.Proofs.Inlining.Parts

/-! # What is removed from a tag

The scan finds ranges of positions. Here the same is said without positions: a tag is cut into
segments, each of which stays or goes, and the ranges are where the removed ones lie
(`rangesIn`). Removing the ranges leaves the other segments (`removeAll_rangesIn`), also where the
first `style` attribute has grown and the ranges behind it have moved (`removeAll_complete`). -/

namespace MailTemplate.Inlining

open Markup

inductive Segment where
  | kept (part : Part)
  | removed (parts : List Part)
  deriving DecidableEq, Inhabited

namespace Segment

def parts : Segment → List Part
  | kept part => [part]
  | removed parts => parts

def isRemoved : Segment → Bool
  | kept _ => false
  | removed _ => true

def isKeptBlank : Segment → Bool
  | kept part => part.isBlank
  | removed _ => false

end Segment

/-- The parts of a list of segments that has the last one first, as a scan collects them. -/
def partsIn : List Segment → List Part
  | [] => []
  | segment :: earlier => partsIn earlier ++ segment.parts

def keptIn : List Segment → List Part
  | [] => []
  | .kept part :: earlier => keptIn earlier ++ [part]
  | .removed _ :: earlier => keptIn earlier

/-- The position behind segments that begin at `start`. -/
def stopOf (start : Nat) (segments : List Segment) : Nat :=
  start + (tokensOf (partsIn segments)).length

/-- The ranges of the removed segments, the last one first. -/
def rangesIn (start : Nat) : List Segment → List Range
  | [] => []
  | .kept _ :: earlier => rangesIn start earlier
  | .removed parts :: earlier =>
    ⟨stopOf start earlier, stopOf start earlier + (tokensOf parts).length⟩ ::
      rangesIn start earlier

theorem partsIn_append (later earlier : List Segment) :
    partsIn (later ++ earlier) = partsIn earlier ++ partsIn later := by
  induction later with
  | nil => simp [partsIn]
  | cons segment later ih => simp [partsIn, ih]

theorem mem_partsIn {part : Part} {segments : List Segment} :
    part ∈ partsIn segments ↔ ∃ segment ∈ segments, part ∈ segment.parts := by
  induction segments with
  | nil => simp [partsIn]
  | cons segment earlier ih => simp [partsIn, ih, or_comm]

theorem keptIn_sublist (segments : List Segment) :
    (keptIn segments).Sublist (partsIn segments) := by
  induction segments with
  | nil => exact .slnil
  | cons segment earlier ih =>
    cases segment with
    | kept part => exact ih.append (.refl _)
    | removed parts => exact ih.trans (List.sublist_append_left _ _)

@[simp] theorem stopOf_nil (start : Nat) : stopOf start [] = start := rfl

theorem stopOf_kept (start : Nat) (part : Part) (earlier : List Segment) :
    stopOf start (.kept part :: earlier) = stopOf start earlier + part.tokens.length := by
  simp [stopOf, partsIn, Segment.parts, Nat.add_assoc]

theorem stopOf_removed (start : Nat) (parts : List Part) (earlier : List Segment) :
    stopOf start (.removed parts :: earlier) =
      stopOf start earlier + (tokensOf parts).length := by
  simp [stopOf, partsIn, Segment.parts, Nat.add_assoc]

/-- No range reaches behind the segments. -/
theorem stop_le_stopOf {start : Nat} {segments : List Segment} {range : Range}
    (h : range ∈ rangesIn start segments) : range.stop ≤ stopOf start segments := by
  induction segments with
  | nil => simp [rangesIn] at h
  | cons segment earlier ih =>
    cases segment with
    | kept part =>
      rw [stopOf_kept]
      have := ih h
      omega
    | removed parts =>
      rw [stopOf_removed]
      rcases List.mem_cons.mp h with rfl | h
      · exact Nat.le_refl _
      · have := ih h
        omega

/-! ## Removing the ranges -/

theorem Range.remove_append {α : Type} (before removed behind : List α) :
    Range.remove ⟨before.length, before.length + removed.length⟩ (before ++ removed ++ behind) =
      before ++ behind := by
  simp [Range.remove]

theorem removeAll_rangesIn (before behind : List Token) (segments : List Segment) :
    Range.removeAll (rangesIn before.length segments).reverse
        (before ++ tokensOf (partsIn segments) ++ behind) =
      before ++ tokensOf (keptIn segments) ++ behind := by
  induction segments generalizing behind with
  | nil => simp [rangesIn, partsIn, keptIn, Range.removeAll]
  | cons segment earlier ih =>
    cases segment with
    | kept part =>
      have := ih (part.tokens ++ behind)
      simpa [rangesIn, partsIn, keptIn, Segment.parts] using this
    | removed parts =>
      -- the last range goes first, and what is left is a tag without it
      have hlast := Range.remove_append (before ++ tokensOf (partsIn earlier)) (tokensOf parts) behind
      have hrest := ih behind
      simp only [Range.removeAll] at hrest ⊢
      simp only [rangesIn, List.reverse_cons, List.foldr_append, List.foldr_cons, List.foldr_nil,
        partsIn, Segment.parts, tokensOf_append, stopOf, keptIn]
      rw [List.length_append] at hlast
      rw [← List.append_assoc before, hlast, hrest]

/-! ## The first `style` attribute -/

/-- The `style` attribute that a scan finds at `position`. -/
def Attribute.styleAt (position : Nat) : Attribute → StyleAttribute
  | bare _ => .bare position false
  | unassigned _ _ => .bare (position + 1) true
  | assigned _ _ _ => .withValue (position + 2)

/-- The first `style` attribute of parts that begin at `position`. -/
def styleFrom (position : Nat) : List Part → Option StyleAttribute
  | [] => none
  | .ofAttribute a :: parts =>
    if a.isStyle then some (a.styleAt position)
    else styleFrom (position + a.tokens.length) parts
  | .loose _ :: parts => styleFrom (position + 1) parts

/-- The parts with declarations in their first `style` attribute. -/
def completeFirst (declarations : String) : List Part → List Part
  | [] => []
  | .ofAttribute a :: parts =>
    if a.isStyle then .ofAttribute (a.withDeclarations declarations) :: parts
    else .ofAttribute a :: completeFirst declarations parts
  | .loose token :: parts => .loose token :: completeFirst declarations parts

namespace StyleAttribute

/-- The position behind which a `style` attribute grows. -/
def last : StyleAttribute → Nat
  | withValue position => position
  | bare last _ => last

/-- The tokens that declarations add to a `style` attribute. -/
def added (declarations : String) : StyleAttribute → List Token
  | withValue _ => []
  | bare _ hasEquals =>
    if declarations.isEmpty then [] else completion hasEquals declarations

/-- The document with the declarations in a `style` attribute. -/
def complete (declarations : String) (tokens : List Token) : StyleAttribute → List Token
  | withValue position => tokens.modify position (Inlining.withDeclarations declarations)
  | bare last hasEquals => insertAt (last + 1) ((bare last hasEquals).added declarations) tokens

end StyleAttribute

theorem shiftAfter_zero (last : Nat) (ranges : List Range) : shiftAfter last 0 ranges = ranges := by
  simp [shiftAfter, Range.shift]

theorem insertAt_nil {α : Type} (position : Nat) (items : List α) :
    insertAt position [] items = items := by
  simp [insertAt]

/-- A tag that has a `style` attribute is restyled in one way, whatever the attribute lacks. -/
theorem restyle_of_style {found : TagAttributes} {style : StyleAttribute}
    (h : found.style = some style) (tokens : List Token) (tag : Nat) (declarations : String) :
    restyle tokens tag found declarations =
      Range.removeAll
        (shiftAfter style.last (style.added declarations).length found.classRanges)
        (style.complete declarations tokens) := by
  cases style with
  | withValue position =>
    simp [restyle, h, StyleAttribute.added, StyleAttribute.complete, shiftAfter_zero]
  | bare last hasEquals =>
    by_cases hd : declarations.isEmpty = true
    · simp [restyle, h, hd, StyleAttribute.added, StyleAttribute.complete, shiftAfter_zero,
        insertAt_nil]
    · simp [restyle, h, hd, StyleAttribute.added, StyleAttribute.complete, StyleAttribute.last]

theorem insertAt_append {α : Type} (before added behind : List α) {position : Nat}
    (h : position = before.length) :
    insertAt position added (before ++ behind) = before ++ added ++ behind := by
  simp [insertAt, h]

theorem modify_append {α : Type} (before behind : List α) (item : α) (f : α → α) {position : Nat}
    (h : position = before.length) :
    (before ++ item :: behind).modify position f = before ++ f item :: behind := by
  simp [List.modify_eq_take_drop, h]

/-- What completing an attribute does to its own tokens. -/
theorem complete_styleAt (declarations : String) (before behind : List Token) (a : Attribute) :
    (a.styleAt before.length).complete declarations (before ++ a.tokens ++ behind) =
      before ++ (a.withDeclarations declarations).tokens ++ behind := by
  cases a with
  | bare name =>
    have := insertAt_append (before ++ [⟨.attributeName, name⟩])
      ((StyleAttribute.bare before.length false).added declarations) behind
      (show before.length + 1 = _ by simp)
    by_cases hd : declarations.isEmpty = true <;>
      simp_all [Attribute.styleAt, StyleAttribute.complete, StyleAttribute.added, completion,
        Attribute.tokens, Attribute.withDeclarations]
  | unassigned name sign =>
    have := insertAt_append (before ++ [⟨.attributeName, name⟩, ⟨.attributeEquals, sign⟩])
      ((StyleAttribute.bare (before.length + 1) true).added declarations) behind
      (show before.length + 2 = _ by simp)
    by_cases hd : declarations.isEmpty = true <;>
      simp_all [Attribute.styleAt, StyleAttribute.complete, StyleAttribute.added, completion,
        Attribute.tokens, Attribute.withDeclarations]
  | assigned name sign value =>
    have := modify_append (before ++ [⟨.attributeName, name⟩, ⟨.attributeEquals, sign⟩]) behind
      ⟨.attributeValue, value⟩ (Inlining.withDeclarations declarations)
      (show before.length + 2 = _ by simp)
    simpa [Attribute.styleAt, StyleAttribute.complete, Attribute.tokens,
      Attribute.withDeclarations, Inlining.withDeclarations] using this

theorem length_tokens_withDeclarations (declarations : String) (position : Nat) (a : Attribute) :
    (a.withDeclarations declarations).tokens.length =
      a.tokens.length + ((a.styleAt position).added declarations).length := by
  cases a <;> by_cases hd : declarations.isEmpty = true <;>
    simp [Attribute.withDeclarations, Attribute.tokens, Attribute.styleAt, StyleAttribute.added,
      completion, hd]

theorem last_styleAt (position : Nat) (a : Attribute) :
    position ≤ (a.styleAt position).last ∧
      (a.styleAt position).last < position + a.tokens.length := by
  cases a <;> simp [Attribute.styleAt, StyleAttribute.last, Attribute.tokens]

theorem styleFrom_append (position : Nat) (parts rest : List Part) :
    styleFrom position (parts ++ rest) =
      (styleFrom position parts).or (styleFrom (position + (tokensOf parts).length) rest) := by
  induction parts generalizing position with
  | nil => simp [styleFrom]
  | cons part parts ih =>
    cases part with
    | ofAttribute a =>
      by_cases ha : a.isStyle = true
      · simp [styleFrom, ha]
      · simp [styleFrom, ha, ih, Part.tokens, Nat.add_assoc]
    | loose token => simp [styleFrom, ih, Part.tokens, Nat.add_assoc, Nat.add_comm 1]

theorem styleFrom_eq_none {parts : List Part} (h : ∀ part ∈ parts, part.isStyle = false)
    (position : Nat) : styleFrom position parts = none := by
  induction parts generalizing position with
  | nil => rfl
  | cons part parts ih =>
    have hparts := ih fun p hp => h p (List.mem_cons_of_mem _ hp)
    cases part with
    | ofAttribute a =>
      have ha : a.isStyle = false := h (.ofAttribute a) List.mem_cons_self
      simp [styleFrom, ha, hparts]
    | loose token => simp [styleFrom, hparts]

theorem completeFirst_append {parts : List Part} (h : ∀ part ∈ parts, part.isStyle = false)
    (declarations : String) (rest : List Part) :
    completeFirst declarations (parts ++ rest) = parts ++ completeFirst declarations rest := by
  induction parts with
  | nil => rfl
  | cons part parts ih =>
    have hparts := ih fun p hp => h p (List.mem_cons_of_mem _ hp)
    cases part with
    | ofAttribute a =>
      have ha : a.isStyle = false := h (.ofAttribute a) List.mem_cons_self
      simp [completeFirst, ha, hparts]
    | loose token => simp [completeFirst, hparts]

theorem keptIn_append (later earlier : List Segment) :
    keptIn (later ++ earlier) = keptIn earlier ++ keptIn later := by
  induction later with
  | nil => simp [keptIn]
  | cons segment later ih => cases segment <;> simp [keptIn, ih]

theorem stopOf_append (start : Nat) (later earlier : List Segment) :
    stopOf start (later ++ earlier) = stopOf (stopOf start earlier) later := by
  simp [stopOf, partsIn_append, Nat.add_assoc]

theorem rangesIn_append (start : Nat) (later earlier : List Segment) :
    rangesIn start (later ++ earlier) =
      rangesIn (stopOf start earlier) later ++ rangesIn start earlier := by
  induction later with
  | nil => rfl
  | cons segment later ih =>
    cases segment <;> simp [rangesIn, ih, stopOf_append]

theorem shiftAfter_append (last count : Nat) (ranges rest : List Range) :
    shiftAfter last count (ranges ++ rest) =
      shiftAfter last count ranges ++ shiftAfter last count rest :=
  List.map_append

theorem shiftAfter_reverse (last count : Nat) (ranges : List Range) :
    shiftAfter last count ranges.reverse = (shiftAfter last count ranges).reverse :=
  List.map_reverse

/-- Ranges behind the place where tokens are added move by their number. -/
theorem shiftAfter_rangesIn {last start : Nat} (h : last < start) (count : Nat)
    (segments : List Segment) :
    shiftAfter last count (rangesIn start segments) = rangesIn (start + count) segments := by
  induction segments with
  | nil => rfl
  | cons segment earlier ih =>
    cases segment with
    | kept part => simpa [rangesIn] using ih
    | removed parts =>
      have hlast : last < stopOf start earlier := by
        simp only [stopOf]
        omega
      simp only [rangesIn, shiftAfter, List.map_cons, if_pos hlast] at ih ⊢
      rw [ih]
      simp only [Range.shift, stopOf]
      congr 2 <;> omega

/-- Ranges before that place stay where they are. -/
theorem shiftAfter_eq_self {last start : Nat} {segments : List Segment}
    (h : stopOf start segments ≤ last) (count : Nat) :
    shiftAfter last count (rangesIn start segments) = rangesIn start segments := by
  induction segments with
  | nil => rfl
  | cons segment earlier ih =>
    cases segment with
    | kept part =>
      rw [stopOf_kept] at h
      exact ih (by omega)
    | removed parts =>
      rw [stopOf_removed] at h
      have hlast : ¬ last < stopOf start earlier := by omega
      have := ih (by omega)
      simp only [rangesIn, shiftAfter, List.map_cons, if_neg hlast] at this ⊢
      rw [this]

/-- No `style` attribute is removed. -/
def SparesStyle (segments : List Segment) : Prop :=
  ∀ parts, .removed parts ∈ segments → ∀ part ∈ parts, part.isStyle = false

theorem exists_first_style {segments : List Segment} (hs : SparesStyle segments)
    (h : ∃ part ∈ partsIn segments, part.isStyle = true) :
    ∃ later a earlier, segments = later ++ .kept (.ofAttribute a) :: earlier ∧
      a.isStyle = true ∧ ∀ part ∈ partsIn earlier, part.isStyle = false := by
  induction segments with
  | nil => simp [partsIn] at h
  | cons segment earlier ih =>
    by_cases he : ∃ part ∈ partsIn earlier, part.isStyle = true
    · obtain ⟨later, a, rest, hseg, ha, hrest⟩ :=
        ih (fun parts hp => hs parts (List.mem_cons_of_mem _ hp)) he
      exact ⟨segment :: later, a, rest, by rw [hseg]; rfl, ha, hrest⟩
    · have hearlier : ∀ part ∈ partsIn earlier, part.isStyle = false := by simpa using he
      obtain ⟨part, hmem, hpart⟩ := h
      rcases List.mem_append.mp hmem with hmem | hmem
      · exact absurd ⟨part, hmem, hpart⟩ he
      · cases segment with
        | removed parts =>
          rw [hs parts List.mem_cons_self part hmem] at hpart
          cases hpart
        | kept part' =>
          obtain rfl : part = part' := by simpa [Segment.parts] using hmem
          cases part with
          | loose token => cases hpart
          | ofAttribute a => exact ⟨[], a, earlier, rfl, hpart, hearlier⟩

/-- A tag with its first `style` attribute completed and its removed segments taken out. -/
theorem removeAll_complete {segments : List Segment} (hs : SparesStyle segments)
    (before behind : List Token) (declarations : String) {style : StyleAttribute}
    (h : styleFrom before.length (partsIn segments) = some style) :
    Range.removeAll
        (shiftAfter style.last (style.added declarations).length
          (rangesIn before.length segments).reverse)
        (style.complete declarations (before ++ tokensOf (partsIn segments) ++ behind)) =
      before ++ tokensOf (completeFirst declarations (keptIn segments)) ++ behind := by
  have hex : ∃ part ∈ partsIn segments, part.isStyle = true := by
    by_contra hno
    rw [styleFrom_eq_none (by simpa using hno)] at h
    cases h
  obtain ⟨later, a, earlier, rfl, ha, hearlier⟩ := exists_first_style hs hex
  have hkept : ∀ part ∈ keptIn earlier, part.isStyle = false :=
    fun part hp => hearlier part ((keptIn_sublist earlier).mem hp)
  obtain rfl : a.styleAt (stopOf before.length earlier) = style := by
    simpa [partsIn_append, partsIn, Segment.parts, styleFrom_append, styleFrom_eq_none hearlier,
      styleFrom, ha, stopOf]
      using h
  obtain ⟨hfirst, hlast⟩ := last_styleAt (stopOf before.length earlier) a
  have hlength := length_tokens_withDeclarations declarations (stopOf before.length earlier) a
  -- the segments after the change are the same ones, with the attribute completed
  have hafter := removeAll_rangesIn before behind
    (later ++ .kept (.ofAttribute (a.withDeclarations declarations)) :: earlier)
  have hranges : shiftAfter (a.styleAt (stopOf before.length earlier)).last
        ((a.styleAt (stopOf before.length earlier)).added declarations).length
        (rangesIn before.length (later ++ .kept (.ofAttribute a) :: earlier)) =
      rangesIn before.length
        (later ++ .kept (.ofAttribute (a.withDeclarations declarations)) :: earlier) := by
    have hlast : (a.styleAt (stopOf before.length earlier)).last <
        stopOf before.length (.kept (.ofAttribute a) :: earlier) := by
      rw [stopOf_kept]
      exact hlast
    rw [rangesIn_append, rangesIn_append, shiftAfter_append, shiftAfter_rangesIn hlast, rangesIn,
      rangesIn, shiftAfter_eq_self hfirst, stopOf_kept, stopOf_kept, Part.tokens, Part.tokens,
      hlength, Nat.add_assoc]
  have htokens := complete_styleAt declarations (before ++ tokensOf (partsIn earlier))
    (tokensOf (partsIn later) ++ behind) a
  rw [← hranges] at hafter
  rw [shiftAfter_reverse]
  simp only [partsIn_append, partsIn, Segment.parts, keptIn_append, keptIn, tokensOf_append,
    tokensOf_cons, Part.tokens, List.append_assoc,
    completeFirst_append hkept, completeFirst, ha, if_true, List.length_append,
    List.cons_append, List.nil_append] at hafter htokens ⊢
  rw [stopOf, htokens]
  exact hafter

end MailTemplate.Inlining
