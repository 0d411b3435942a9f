import MailTemplate.Proofs.Inlining.Scan

/-! # A document tag by tag

Injecting edits a document in place, tag after tag, by positions found in the tag before anything
is changed. The result is what rewriting each tag on its own gives (`inject_eq_tagwise`): the edits
of one tag neither depend on what is around it nor touch it (`injectSpan_append`). -/

namespace MailTemplate.Inlining

open Markup

/-- The parts of a tag with declarations: in its first `style` attribute, or in one that is put in
front of all parts. -/
def restyledParts (declarations : String) (parts : List Part) : List Part :=
  if parts.any Part.isStyle then completeFirst declarations parts
  else if declarations.isEmpty then parts
  else .ofAttribute (.assigned "style" "=" declarations) :: .loose ⟨.tagContinuation, " "⟩ :: parts

/-- The tag name is kept apart from an attribute that is put behind it. -/
def restyledName (declarations : String) (parts : List Part) (tag : Token) : Token :=
  if parts.any Part.isStyle then tag
  else if declarations.isEmpty then tag
  else separated tag

/-- A tag on its own, restyled. -/
def restyledTag (sheet : Css.Stylesheet) (tag : Token) (attributes : List Token) : List Token :=
  let parts := partsOf attributes
  let declarations := declarationsOfTag sheet tag (parts.flatMap Part.classes)
  restyledName declarations parts tag :: tokensOf (restyledParts declarations (strip parts))

/-- A document with each of its tags rewritten on its own. -/
def tagwise (rewrite : Token → List Token → List Token) : List Token → List Token
  | [] => []
  | token :: tokens =>
    if token.isTag then
      rewrite token (attributesOf tokens) ++ tagwise rewrite (tokens.dropWhile Token.isAttribute)
    else token :: tagwise rewrite tokens
termination_by tokens => tokens.length
decreasing_by
  · exact Nat.lt_succ_of_le (List.dropWhile_sublist _).length_le
  · simp

/-! ## One tag -/

theorem isSome_styleFrom (position : Nat) (parts : List Part) :
    (styleFrom position parts).isSome = parts.any Part.isStyle := by
  induction parts generalizing position with
  | nil => rfl
  | cons part parts ih =>
    cases part with
    | ofAttribute a =>
      by_cases ha : a.isStyle = true <;> simp [styleFrom, Part.isStyle, Part.attribute?, ha, ih]
    | loose token => simp [styleFrom, Part.isStyle, Part.attribute?, ih]

theorem any_isStyle_keptIn {segments : List Segment} (h : SparesStyle segments) :
    (keptIn segments).any Part.isStyle = (partsIn segments).any Part.isStyle := by
  induction segments with
  | nil => rfl
  | cons segment earlier ih =>
    have hearlier := ih fun parts hp => h parts (List.mem_cons_of_mem _ hp)
    cases segment with
    | kept part => simp [keptIn, partsIn, Segment.parts, hearlier]
    | removed parts =>
      have hparts : parts.any Part.isStyle = false := by
        simpa using h parts List.mem_cons_self
      simp [keptIn, partsIn, Segment.parts, hearlier, hparts]

/-- The segments that the scan of a tag describes. -/
theorem scanAttributes_append (before : List Token) (tag : Token) (attributes behind : List Token) :
    ∃ segments found, Scanned (before.length + 1) segments found ∧
      scanAttributes (before ++ tag :: attributes ++ behind)
          ⟨before.length, before.length + 1 + attributes.length⟩ =
        { found with classRanges := found.classRanges.reverse } ∧
      partsIn segments = partsOf attributes ∧ keptIn segments = strip (partsOf attributes) := by
  have hstart := Scanning.start (before ++ [tag]) attributes
  have htag : (before ++ [tag]).length = before.length + 1 := by simp
  obtain ⟨segments, hscanned, hparts, hkept⟩ := hstart.run behind htag
  simp only [resume, List.length_append, List.length_singleton, List.append_assoc,
    List.singleton_append, stopOf_nil] at hscanned
  exact ⟨segments, _, hscanned, by simp [scanAttributes], hparts, hkept⟩

/-- A new `style` attribute behind a tag name. -/
theorem insertAt_styleGroup (before behind : List Token) (tag : Token) (declarations : String) :
    insertAt (before.length + 1) (styleGroup declarations)
        ((before ++ [tag] ++ behind).modify before.length separated) =
      before ++ separated tag :: styleGroup declarations ++ behind := by
  rw [List.append_assoc, List.singleton_append, modify_append before behind tag separated rfl,
    ← List.singleton_append, ← List.append_assoc, insertAt_append _ _ behind (by simp)]
  simp

section

variable {before : List Token} {segments : List Segment} {found given : TagAttributes}

theorem Scanned.any_isStyle (h : Scanned (before.length + 1) segments found) :
    (keptIn segments).any Part.isStyle = found.style.isSome ∧
      (partsIn segments).any Part.isStyle = found.style.isSome := by
  have hsome := isSome_styleFrom (before.length + 1) (partsIn segments)
  rw [← h.style] at hsome
  exact ⟨(any_isStyle_keptIn h.sparesStyle).trans hsome.symm, hsome.symm⟩

theorem Scanned.restyle_of_some (h : Scanned (before.length + 1) segments found)
    (hranges : given.classRanges = found.classRanges.reverse) {style : StyleAttribute}
    (hfound : found.style = some style) (hgiven : given.style = some style) (tag : Token)
    (behind : List Token) (declarations : String) :
    restyle (before ++ [tag] ++ tokensOf (partsIn segments) ++ behind) before.length given
        declarations =
      before ++ [tag] ++ tokensOf (completeFirst declarations (keptIn segments)) ++ behind := by
  have hfrom : styleFrom (before ++ [tag]).length (partsIn segments) = some style := by
    rw [← hfound, h.style, List.length_append, List.length_singleton]
  have hcomplete := removeAll_complete h.sparesStyle (before ++ [tag]) behind declarations hfrom
  simp only [List.length_append, List.length_singleton] at hcomplete
  rw [restyle_of_style hgiven, hranges, h.classRanges, hcomplete]

theorem Scanned.restyle_of_none (h : Scanned (before.length + 1) segments found)
    (hranges : given.classRanges = found.classRanges.reverse) (hgiven : given.style = none)
    (tag : Token) (behind : List Token) (declarations : String) :
    restyle (before ++ [tag] ++ tokensOf (partsIn segments) ++ behind) before.length given
        declarations =
      if declarations.isEmpty then before ++ [tag] ++ tokensOf (keptIn segments) ++ behind
      else before ++ separated tag :: styleGroup declarations ++
        (tokensOf (keptIn segments) ++ behind) := by
  have hremove := removeAll_rangesIn (before ++ [tag]) behind segments
  simp only [List.length_append, List.length_singleton] at hremove
  simp only [restyle, hgiven, hranges, h.classRanges, hremove]
  split
  · rfl
  · rw [List.append_assoc _ _ behind, insertAt_styleGroup]

/-- Restyling by positions does to the tag what restyling its parts does. -/
theorem Scanned.restyle (h : Scanned (before.length + 1) segments found)
    (hranges : given.classRanges = found.classRanges.reverse) (hgiven : given.style = found.style)
    (tag : Token) (behind : List Token) (declarations : String) :
    restyle (before ++ [tag] ++ tokensOf (partsIn segments) ++ behind) before.length given
        declarations =
      before ++ restyledName declarations (partsIn segments) tag ::
        tokensOf (restyledParts declarations (keptIn segments)) ++ behind := by
  obtain ⟨hkept, hall⟩ := h.any_isStyle
  unfold restyledName restyledParts
  rw [hkept, hall]
  cases hfound : found.style with
  | some style =>
    rw [hfound] at hgiven
    rw [h.restyle_of_some hranges hfound hgiven]
    simp
  | none =>
    rw [hfound] at hgiven
    rw [h.restyle_of_none hranges hgiven]
    by_cases hd : declarations.isEmpty = true
    · simp [hd]
    · simp [hd, styleGroup, Part.tokens, Attribute.tokens]

end

theorem injectSpan_append (sheet : Css.Stylesheet) (before : List Token) (tag : Token)
    (attributes behind : List Token) :
    injectSpan sheet ⟨before.length, before.length + 1 + attributes.length⟩
        (before ++ tag :: attributes ++ behind) =
      before ++ restyledTag sheet tag attributes ++ behind := by
  obtain ⟨segments, found, h, hscan, hparts, hkept⟩ :=
    scanAttributes_append before tag attributes behind
  have htag : (before ++ tag :: attributes ++ behind)[before.length]? = some tag := by
    simp
  have hclasses : found.classes = (partsOf attributes).flatMap Part.classes := by
    rw [h.classes, hparts]
  have htokens : before ++ tag :: attributes ++ behind =
      before ++ [tag] ++ tokensOf (partsIn segments) ++ behind := by
    rw [hparts, tokensOf_partsOf]
    simp
  unfold injectSpan restyledTag
  simp only [hscan, htag, hclasses, Option.elim_some]
  rw [htokens]
  refine (h.restyle ?_ ?_ tag behind _).trans ?_
  · rfl
  · rfl
  · rw [hparts, hkept]

/-! ## All tags -/

theorem isTag_eq_false_of_isAttribute {token : Token} (h : token.isAttribute = true) :
    token.isTag = false := by
  by_contra htag
  have hkind : token.kind.isTag = true := by simpa [Token.isTag] using htag
  rw [Token.isAttribute, Kind.isAttribute_of_isTag hkind] at h
  cases h

theorem tagwise_attributes (rewrite : Token → List Token → List Token) (tokens : List Token) :
    tagwise rewrite tokens =
      attributesOf tokens ++ tagwise rewrite (tokens.dropWhile Token.isAttribute) := by
  induction tokens with
  | nil => simp [tagwise, attributesOf]
  | cons token tokens ih =>
    by_cases h : token.isAttribute = true
    · have htag := isTag_eq_false_of_isAttribute h
      rw [tagwise, htag, if_neg (by simp), ih, attributesOf_cons_of_pos h,
        List.dropWhile_cons_of_pos h, List.cons_append]
    · rw [attributesOf_cons_of_neg h, List.dropWhile_cons_of_neg h, List.nil_append]

theorem foldr_tagSpansFrom (sheet : Css.Stylesheet) (before tokens : List Token) :
    (tagSpansFrom before.length tokens).foldr (injectSpan sheet) (before ++ tokens) =
      before ++ tagwise (restyledTag sheet) tokens := by
  induction tokens generalizing before with
  | nil => simp [tagSpansFrom, tagwise]
  | cons token tokens ih =>
    have hrest := ih (before ++ [token])
    simp only [List.length_append, List.length_singleton, List.append_assoc,
      List.singleton_append] at hrest
    by_cases h : token.isTag = true
    · -- the tags behind this one are done when it is its turn
      rw [tagSpansFrom, if_pos h, List.foldr_cons, hrest, tagwise_attributes, tagwise, if_pos h,
        ← List.append_assoc]
      have := injectSpan_append sheet before token (attributesOf tokens)
        (tagwise (restyledTag sheet) (tokens.dropWhile Token.isAttribute))
      simpa using this
    · rw [tagSpansFrom, if_neg h, hrest, tagwise, if_neg h]

theorem inject_eq_tagwise (sheet : Css.Stylesheet) (tokens : List Token) :
    inject sheet tokens = tagwise (restyledTag sheet) tokens :=
  foldr_tagSpansFrom sheet [] tokens

end MailTemplate.Inlining
