import MailTemplate.Proofs.Inlining.Scanned

/-! # The range of a class attribute

A class attribute becomes a removed segment with the blanks behind it. The last one of a tag takes
along what is right before it, too: removed segments and then blanks (`addClassRange_last`). -/

namespace MailTemplate.Inlining

open Markup

/-- The segments without the removed ones at their end and the blanks before those. -/
def beforeLast (segments : List Segment) : List Segment :=
  (segments.dropWhile Segment.isRemoved).dropWhile Segment.isKeptBlank

theorem rangesIn_dropWhile_isKeptBlank (start : Nat) (segments : List Segment) :
    rangesIn start (segments.dropWhile Segment.isKeptBlank) = rangesIn start segments := by
  induction segments with
  | nil => rfl
  | cons segment earlier ih =>
    cases segment with
    | kept part =>
      rw [List.dropWhile_cons]
      split
      · exact ih
      · rfl
    | removed parts => rfl

theorem joinAdjacent_rangesIn (start : Nat) (segments : List Segment) :
    joinAdjacent (rangesIn start segments) (stopOf start segments) =
      (rangesIn start (segments.dropWhile Segment.isRemoved),
        stopOf start (segments.dropWhile Segment.isRemoved)) := by
  induction segments with
  | nil => rfl
  | cons segment earlier ih =>
    cases segment with
    | removed parts =>
      rw [rangesIn, joinAdjacent, stopOf_removed, if_pos (by simp)]
      exact ih
    | kept part =>
      -- a part that stays lies between its end and every range
      show joinAdjacent (rangesIn start earlier) _ =
        (rangesIn start earlier, stopOf start (.kept part :: earlier))
      rw [stopOf_kept]
      cases hr : rangesIn start earlier with
      | nil => rfl
      | cons range ranges =>
        have hmem : range ∈ rangesIn start earlier := by
          rw [hr]
          exact List.mem_cons_self
        have hstop := stop_le_stopOf hmem
        have hpos := part.length_tokens_pos
        rw [joinAdjacent, if_neg (by rw [beq_iff_eq]; omega)]

/-- Where the blanks before a class attribute may begin. -/
def floorOf (start : Nat) (segments : List Segment) : Nat :=
  (rangesIn start segments).head?.elim start Range.stop

theorem floorOf_le_stopOf (start : Nat) (segments : List Segment) :
    floorOf start segments ≤ stopOf start segments := by
  unfold floorOf
  cases hr : rangesIn start segments with
  | nil => exact Nat.le_add_right _ _
  | cons range ranges => exact stop_le_stopOf (by rw [hr]; exact List.mem_cons_self)

theorem blankCount_append_of_not_blank {part : Part} (h : part.isBlank = false)
    (tokens : List Token) : blankCount (part.tokens.reverse ++ tokens) = 0 := by
  cases part with
  | ofAttribute a =>
    cases a <;> simp [Part.tokens, Attribute.tokens, blankCount, Token.isBlank]
  | loose token =>
    have h : token.isBlank = false := h
    simp [Part.tokens, blankCount, h]

theorem blankCount_floorOf (before : List Token) (segments : List Segment) :
    blankCount ((before ++ tokensOf (partsIn segments)).drop
        (floorOf before.length segments)).reverse =
      (tokensOf (partsIn (segments.takeWhile Segment.isKeptBlank))).length := by
  induction segments with
  | nil => simp [floorOf, rangesIn, partsIn, blankCount]
  | cons segment earlier ih =>
    cases segment with
    | removed parts =>
      have hfloor : floorOf before.length (.removed parts :: earlier) =
          (before ++ tokensOf (partsIn (.removed parts :: earlier))).length := by
        rw [List.length_append, ← stopOf, stopOf_removed]
        rfl
      rw [hfloor, List.drop_length]
      rfl
    | kept part =>
      have hle := floorOf_le_stopOf before.length earlier
      rw [stopOf, ← List.length_append] at hle
      rw [partsIn, Segment.parts, tokensOf_append, tokensOf_cons, tokensOf_nil, List.append_nil,
        ← List.append_assoc]
      rw [show floorOf before.length (.kept part :: earlier) = floorOf before.length earlier from rfl]
      rw [List.drop_append_of_le_length hle, List.reverse_append, List.takeWhile_cons]
      by_cases hb : part.isBlank = true
      · cases part with
        | ofAttribute a => cases hb
        | loose token =>
          have ht : token.isBlank = true := hb
          have hk : (Segment.kept (.loose token)).isKeptBlank = true := hb
          rw [if_pos hk]
          simp only [blankCount] at ih
          simp [blankCount, Part.tokens, ht, ih, partsIn, Segment.parts]
      · have hk : ¬ (Segment.kept part).isKeptBlank = true := hb
        rw [if_neg hk]
        exact blankCount_append_of_not_blank (by simpa using hb) _

theorem extract_append {α : Type} {items : List α} {start stop : Nat} (hstart : start ≤ stop)
    (hstop : stop = items.length) (behind : List α) :
    (items ++ behind).extract start stop = items.drop start := by
  rw [List.extract_eq_take_drop, List.drop_append_of_le_length (by omega),
    List.take_append_of_le_length (by rw [List.length_drop]; omega),
    List.take_of_length_le (by rw [List.length_drop]; omega)]

theorem addClassRange_last {before : List Token} {tag : Nat} (htag : before.length = tag + 1)
    (segments : List Segment) (behind : List Token) (stop : Nat) :
    addClassRange (before ++ tokensOf (partsIn segments) ++ behind) ⟨tag, stop⟩
        (rangesIn before.length segments) (stopOf before.length segments) stop =
      ⟨stopOf before.length (beforeLast segments), stop⟩ ::
        rangesIn before.length (beforeLast segments) := by
  have hjoin := joinAdjacent_rangesIn before.length segments
  have hparts : partsIn segments = partsIn (segments.dropWhile Segment.isRemoved) ++
      partsIn (segments.takeWhile Segment.isRemoved) := by
    rw [← partsIn_append, List.takeWhile_append_dropWhile]
  unfold beforeLast
  generalize segments.dropWhile Segment.isRemoved = left at hjoin hparts ⊢
  have hextract : (before ++ tokensOf (partsIn segments) ++ behind).extract
      (floorOf before.length left) (stopOf before.length left) =
        (before ++ tokensOf (partsIn left)).drop (floorOf before.length left) := by
    rw [hparts, tokensOf_append, ← List.append_assoc, List.append_assoc _ _ behind]
    exact extract_append (floorOf_le_stopOf before.length left) (by simp [stopOf]) _
  have hstop : stopOf before.length left -
      (tokensOf (partsIn (left.takeWhile Segment.isKeptBlank))).length =
        stopOf before.length (left.dropWhile Segment.isKeptBlank) := by
    have := stopOf_append before.length (left.takeWhile Segment.isKeptBlank)
      (left.dropWhile Segment.isKeptBlank)
    rw [List.takeWhile_append_dropWhile] at this
    rw [this, stopOf, Nat.add_sub_cancel]
  have hfloor : (rangesIn before.length left).head?.elim (tag + 1) Range.stop =
      floorOf before.length left := by
    rw [floorOf, htag]
  unfold addClassRange
  rw [if_pos (by simp), hjoin]
  simp only [hfloor, hextract, blankCount_floorOf, hstop, rangesIn_dropWhile_isKeptBlank]

/-- What the last class attribute of a tag takes along: class attributes and blanks, so no `style`
attribute. -/
theorem exists_taken {segments : List Segment} (hs : SparesStyle segments) :
    ∃ taken, partsIn segments = partsIn (beforeLast segments) ++ taken ∧
      ∀ part ∈ taken, part.isStyle = false := by
  refine ⟨partsIn ((segments.dropWhile Segment.isRemoved).takeWhile Segment.isKeptBlank) ++
    partsIn (segments.takeWhile Segment.isRemoved), ?_, ?_⟩
  · rw [beforeLast, ← List.append_assoc, ← partsIn_append, ← partsIn_append,
      List.takeWhile_append_dropWhile, List.takeWhile_append_dropWhile]
  · intro part hpart
    rcases List.mem_append.mp hpart with hpart | hpart
    · obtain ⟨segment, hmem, hpart⟩ := mem_partsIn.mp hpart
      have hblank := List.mem_takeWhile_imp hmem
      cases segment with
      | removed parts => cases hblank
      | kept part' =>
        obtain rfl : part = part' := by simpa [Segment.parts] using hpart
        exact Part.isStyle_eq_false_of_isBlank hblank
    · obtain ⟨segment, hmem, hpart⟩ := mem_partsIn.mp hpart
      have hremoved := List.mem_takeWhile_imp hmem
      cases segment with
      | kept part' => cases hremoved
      | removed parts => exact hs parts ((List.takeWhile_sublist _).mem hmem) part hpart

theorem keptIn_beforeLast {segments : List Segment} (h : Tight segments) :
    keptIn (beforeLast segments) = (keptIn segments).rdropWhile Part.isBlank := by
  induction segments with
  | nil => rfl
  | cons segment earlier ih =>
    cases segment with
    | removed parts => exact ih h.2
    | kept part =>
      by_cases hb : part.isBlank = true
      · have hhead := h.1 hb
        have hdrop : earlier.dropWhile Segment.isRemoved = earlier := by
          cases earlier with
          | nil => rfl
          | cons next earlier => simp_all
        have hk : (Segment.kept part).isKeptBlank = true := hb
        have := ih h.2
        rw [beforeLast, hdrop] at this
        rw [beforeLast, List.dropWhile_cons_of_neg (by simp [Segment.isRemoved]),
          List.dropWhile_cons_of_pos hk, this, keptIn, List.rdropWhile_concat_pos _ _ _ hb]
      · have hk : ¬ (Segment.kept part).isKeptBlank = true := hb
        rw [beforeLast, List.dropWhile_cons_of_neg (by simp [Segment.isRemoved]),
          List.dropWhile_cons_of_neg hk, keptIn, List.rdropWhile_concat_neg _ _ _ hb]

theorem Tight.dropWhile {segments : List Segment} (h : Tight segments) (goes : Segment → Bool) :
    Tight (segments.dropWhile goes) := by
  induction segments with
  | nil => exact h
  | cons segment earlier ih =>
    rw [List.dropWhile_cons]
    split
    · exact ih h.2
    · exact h

/-- Parts that go, with those right before them that they take along. -/
theorem Scanned.removed {start : Nat} {segments earlier : List Segment} {found : TagAttributes}
    (h : Scanned start segments found) {taken gone : List Part}
    (hsub : earlier.Sublist segments) (htight : Tight earlier)
    (hparts : partsIn segments = partsIn earlier ++ taken)
    (hspared : ∀ part ∈ taken ++ gone, part.isStyle = false) {after : TagAttributes}
    (hclasses : after.classes = found.classes ++ gone.flatMap Part.classes)
    (hranges : after.classRanges = ⟨stopOf start earlier,
      stopOf start segments + (tokensOf gone).length⟩ :: rangesIn start earlier)
    (hstyle : after.style = found.style) :
    Scanned start (.removed (taken ++ gone) :: earlier) after where
  classes := by simp [hclasses, h.classes, hparts, partsIn, Segment.parts]
  classRanges := by
    rw [hranges, rangesIn, stopOf, stopOf, hparts]
    simp [Nat.add_assoc]
  style := by
    have htaken := styleFrom_eq_none fun part hp => hspared part (List.mem_append_left gone hp)
    rw [hstyle, h.style, hparts, partsIn, Segment.parts, styleFrom_append, styleFrom_append,
      styleFrom_eq_none hspared, htaken]
  sparesStyle := by
    intro parts hp
    rcases List.mem_cons.mp hp with hp | hp
    · obtain rfl : parts = taken ++ gone := by simpa using hp
      exact hspared
    · exact h.sparesStyle parts (hsub.mem hp)
  tight := htight.removed _

/-- The class names in a tag, read at the position of the value. -/
theorem words_groupAt (before behind : List Token) (a : Attribute) :
    ((a.groupAt before.length).value.bind ((before ++ a.tokens ++ behind)[·]?)).elim []
        (Text.words ·.text) = a.value?.elim [] Text.words := by
  cases a with
  | bare name => rfl
  | unassigned name sign => rfl
  | assigned name sign value =>
    have hget : (before ++ (Attribute.assigned name sign value).tokens ++ behind)[
        before.length + 2]? = some ⟨.attributeValue, value⟩ := by
      rw [List.append_assoc, List.getElem?_append_right (by omega)]
      simp [Attribute.tokens]
    simp only [Attribute.groupAt, Attribute.value?, Option.map_some, Option.bind_some, hget,
      Option.elim_some]

section

variable {before attributes rest : List Token} (behind : List Token) {tag : Nat}
  {segments : List Segment} {found : TagAttributes} {a : Attribute} {blanks : List Part}

theorem classes_withClass (ha : a.isClass = true)
    (hblanks : ∀ part ∈ blanks, part.isBlank = true)
    (hattributes : attributes =
      tokensOf (partsIn segments) ++ tokensOf (.ofAttribute a :: blanks) ++ rest)
    (span : TagSpan) (stop : Nat) :
    (found.withClass (before ++ attributes ++ behind) span (stopOf before.length segments) stop
      (a.groupAt (stopOf before.length segments)).value).classes =
        found.classes ++ (Part.ofAttribute a :: blanks).flatMap Part.classes := by
  have hwords := words_groupAt (before ++ tokensOf (partsIn segments))
    (tokensOf blanks ++ rest ++ behind) a
  have hnone : blanks.flatMap Part.classes = [] := by
    refine List.flatMap_eq_nil_iff.mpr fun part hp => ?_
    cases part with
    | ofAttribute b => cases hblanks _ hp
    | loose token => rfl
  rw [List.length_append, ← stopOf] at hwords
  simp only [TagAttributes.withClass, List.flatMap_cons, hnone, List.append_nil, Part.classes,
    Part.attribute?, Option.elim_some, Attribute.classes, ha, if_true]
  rw [← hwords, hattributes]
  simp [Part.tokens]

theorem isStyle_eq_false_of_mem_class (ha : a.isClass = true)
    (hblanks : ∀ part ∈ blanks, part.isBlank = true) :
    ∀ part ∈ Part.ofAttribute a :: blanks, part.isStyle = false := by
  intro part hp
  rcases List.mem_cons.mp hp with rfl | hp
  · exact Part.isStyle_eq_false_of_isClass ha
  · exact Part.isStyle_eq_false_of_isBlank (hblanks part hp)

/-- A class attribute with the blanks behind it, and more of the tag behind those. -/
theorem Scanned.withInnerClass (h : Scanned before.length segments found)
    (ha : a.isClass = true) (hblanks : ∀ part ∈ blanks, part.isBlank = true)
    (hattributes : attributes =
      tokensOf (partsIn segments) ++ tokensOf (.ofAttribute a :: blanks) ++ rest)
    (hrest : rest ≠ []) :
    Scanned before.length (.removed (.ofAttribute a :: blanks) :: segments)
      (found.withClass (before ++ attributes ++ behind) ⟨tag, before.length + attributes.length⟩
        (stopOf before.length segments)
        (stopOf before.length segments + (tokensOf (.ofAttribute a :: blanks)).length)
        (a.groupAt (stopOf before.length segments)).value) := by
  have hne : (stopOf before.length segments + (tokensOf (.ofAttribute a :: blanks)).length ==
      before.length + attributes.length) = false := by
    have hpos := List.length_pos_iff.mpr hrest
    rw [beq_eq_false_iff_ne, hattributes, List.length_append, List.length_append, stopOf]
    omega
  refine h.removed (.refl _) h.tight (List.append_nil _).symm
    (isStyle_eq_false_of_mem_class ha hblanks) (classes_withClass behind ha hblanks hattributes _ _)
    ?_ rfl
  rw [TagAttributes.withClass, addClassRange, if_neg (ne_true_of_eq_false hne), h.classRanges]

/-- A class attribute at the end of a tag, with the blanks around it. The segments that stay are
those before the blanks in front of it. -/
theorem Scanned.withLastClass (htag : before.length = tag + 1)
    (h : Scanned before.length segments found) (ha : a.isClass = true)
    (hblanks : ∀ part ∈ blanks, part.isBlank = true)
    (hattributes : attributes = tokensOf (partsIn segments) ++ tokensOf (.ofAttribute a :: blanks)) :
    ∃ taken, partsIn segments = partsIn (beforeLast segments) ++ taken ∧
      Scanned before.length (.removed (taken ++ .ofAttribute a :: blanks) :: beforeLast segments)
        (found.withClass (before ++ attributes ++ behind)
          ⟨tag, before.length + attributes.length⟩ (stopOf before.length segments)
          (stopOf before.length segments + (tokensOf (.ofAttribute a :: blanks)).length)
          (a.groupAt (stopOf before.length segments)).value) := by
  obtain ⟨taken, htaken, hspared⟩ := exists_taken h.sparesStyle
  have hall : attributes =
      tokensOf (partsIn segments) ++ tokensOf (.ofAttribute a :: blanks) ++ [] := by
    rw [hattributes, List.append_nil]
  have hstop : before.length + attributes.length =
      stopOf before.length segments + (tokensOf (.ofAttribute a :: blanks)).length := by
    rw [hattributes, List.length_append, stopOf, Nat.add_assoc]
  refine ⟨taken, htaken, h.removed ((List.dropWhile_sublist _).trans (List.dropWhile_sublist _))
    ((h.tight.dropWhile _).dropWhile _) htaken (fun part hp => ?_)
    (classes_withClass behind ha hblanks hall _ _) ?_ rfl⟩
  · rcases List.mem_append.mp hp with hp | hp
    · exact hspared part hp
    · exact isStyle_eq_false_of_mem_class ha hblanks part hp
  · have hlast := addClassRange_last htag segments
      (tokensOf (.ofAttribute a :: blanks) ++ behind) (before.length + attributes.length)
    rw [← List.append_assoc, List.append_assoc before, ← hattributes] at hlast
    rw [TagAttributes.withClass, h.classRanges, ← hstop, hlast]
    rfl

/-- One class attribute, wherever it is. -/
theorem Scanned.withClass (htag : before.length = tag + 1)
    (h : Scanned before.length segments found) (ha : a.isClass = true)
    (hblanks : ∀ part ∈ blanks, part.isBlank = true)
    (hattributes : attributes =
      tokensOf (partsIn segments) ++ tokensOf (.ofAttribute a :: blanks) ++ rest) :
    ∃ after, Scanned before.length after
        (found.withClass (before ++ attributes ++ behind)
          ⟨tag, before.length + attributes.length⟩ (stopOf before.length segments)
          (stopOf before.length segments + (tokensOf (.ofAttribute a :: blanks)).length)
          (a.groupAt (stopOf before.length segments)).value) ∧
      partsIn after = partsIn segments ++ .ofAttribute a :: blanks ∧
      keptIn after =
        if rest = [] then (keptIn segments).rdropWhile Part.isBlank else keptIn segments := by
  by_cases hrest : rest = []
  · subst hrest
    rw [List.append_nil] at hattributes
    obtain ⟨taken, htaken, hlast⟩ := h.withLastClass behind htag ha hblanks hattributes
    refine ⟨_, hlast, ?_, ?_⟩
    · rw [partsIn, Segment.parts, ← List.append_assoc, ← htaken]
    · rw [if_pos rfl, keptIn, keptIn_beforeLast h.tight]
  · refine ⟨_, h.withInnerClass behind ha hblanks hattributes hrest, rfl, ?_⟩
    rw [if_neg hrest, keptIn]

end

end MailTemplate.Inlining
