import Mathlib.Data.List.Basic
import MailTemplate.Css.Selector

/-! # The names that a selector matches

A pattern stands for a set of texts, which is given by its characters alone (`Denotes`). The test
goes back to the last `*` only, so it tries few of the ways in which a text can be cut, and it always
ends: each turn leaves fewer parts, or the same parts and less text. It still misses no text
(`matchesWith_iff`): the parts between two `*` fit texts of one length only, and where they fit first,
the longest text is left for the parts behind them (`exists_fits_of_isSuffix`). -/

namespace MailTemplate.Css

/-- The texts that a pattern stands for. -/
inductive Denotes : List Char → List Char → Prop where
  | nil : Denotes [] []
  | literal {c : Char} {pattern text : List Char} (notRun : c ≠ '*') (notOne : c ≠ '?') :
      Denotes pattern text → Denotes (c :: pattern) (c :: text)
  | anyOne (c : Char) {pattern text : List Char} :
      Denotes pattern text → Denotes ('?' :: pattern) (c :: text)
  | anyRun {pattern text rest : List Char} :
      rest <:+ text → Denotes pattern rest → Denotes ('*' :: pattern) text

namespace Pattern

/-- Whether a part can stand for just this character. -/
def Part.Admits : Part → Char → Prop
  | .anyRun, _ => False
  | .anyOne, _ => True
  | .literal c, d => c = d

/-- The texts that the parts of a pattern stand for. -/
def Fits : List Part → List Char → Prop
  | [], text => text = []
  | .anyRun :: parts, text => ∃ rest, rest <:+ text ∧ Fits parts rest
  | part :: parts, text => ∃ c rest, text = c :: rest ∧ part.Admits c ∧ Fits parts rest

theorem fits_cons {part : Part} (h : .anyRun ≠ part) (parts : List Part) (text : List Char) :
    Fits (part :: parts) text ↔ ∃ c rest, text = c :: rest ∧ part.Admits c ∧ Fits parts rest := by
  cases part with
  | anyRun => exact absurd rfl h
  | anyOne => exact Iff.rfl
  | literal c => exact Iff.rfl

theorem fits_cons_cons {part : Part} (h : .anyRun ≠ part) (parts : List Part) (c : Char)
    (text : List Char) :
    Fits (part :: parts) (c :: text) ↔ part.Admits c ∧ Fits parts text := by
  rw [fits_cons h]
  constructor
  · rintro ⟨_, _, heq, hpart, hparts⟩
    obtain ⟨rfl, rfl⟩ := List.cons.inj heq
    exact ⟨hpart, hparts⟩
  · rintro ⟨hpart, hparts⟩
    exact ⟨c, text, rfl, hpart, hparts⟩

theorem Part.ofChar_of_ne {c : Char} (hrun : c ≠ '*') (hone : c ≠ '?') :
    Part.ofChar c = .literal c := by
  unfold Part.ofChar
  split
  · exact absurd rfl hrun
  · exact absurd rfl hone
  · rfl

/-- Reading a pattern keeps what it stands for. -/
theorem fits_ofChar {pattern text : List Char} :
    Fits (pattern.map Part.ofChar) text ↔ Denotes pattern text := by
  constructor
  · intro h
    induction pattern generalizing text with
    | nil =>
      obtain rfl : text = [] := h
      exact .nil
    | cons c pattern ih =>
      by_cases hrun : c = '*'
      · subst hrun
        obtain ⟨rest, hsuffix, hrest⟩ := h
        exact .anyRun hsuffix (ih hrest)
      · by_cases hone : c = '?'
        · subst hone
          obtain ⟨d, rest, rfl, -, hrest⟩ := h
          exact .anyOne d (ih hrest)
        · rw [List.map_cons, Part.ofChar_of_ne hrun hone] at h
          obtain ⟨d, rest, rfl, rfl, hrest⟩ := h
          exact .literal hrun hone (ih hrest)
  · intro h
    induction h with
    | nil => rfl
    | literal hrun hone _ ih =>
      rw [List.map_cons, Part.ofChar_of_ne hrun hone]
      exact ⟨_, _, rfl, rfl, ih⟩
    | anyOne c _ ih => exact ⟨c, _, rfl, trivial, ih⟩
    | anyRun hsuffix _ ih => exact ⟨_, hsuffix, ih⟩

/-! ## Parts without `*` -/

section

variable {before rest : List Part} {text : List Char}

theorem length_eq_of_fits (hrun : .anyRun ∉ before) (h : Fits before text) :
    text.length = before.length := by
  induction before generalizing text with
  | nil =>
    obtain rfl : text = [] := h
    rfl
  | cons part before ih =>
    obtain ⟨hpart, hbefore⟩ := List.ne_and_not_mem_of_not_mem_cons hrun
    obtain ⟨c, text, rfl, -, htext⟩ := (fits_cons hpart before text).mp h
    exact congrArg (· + 1) (ih hbefore htext)

theorem exists_append_of_fits (hrun : .anyRun ∉ before) (h : Fits (before ++ rest) text) :
    ∃ first second, text = first ++ second ∧ Fits before first ∧ Fits rest second := by
  induction before generalizing text with
  | nil => exact ⟨[], text, rfl, rfl, h⟩
  | cons part before ih =>
    obtain ⟨hpart, hbefore⟩ := List.ne_and_not_mem_of_not_mem_cons hrun
    obtain ⟨c, text, rfl, hc, htext⟩ := (fits_cons hpart _ text).mp h
    obtain ⟨first, second, rfl, hfirst, hsecond⟩ := ih hbefore htext
    exact ⟨c :: first, second, rfl, (fits_cons_cons hpart before c first).mpr ⟨hc, hfirst⟩, hsecond⟩

theorem fits_append (hrun : .anyRun ∉ before) {first second : List Char}
    (hfirst : Fits before first) (hsecond : Fits rest second) :
    Fits (before ++ rest) (first ++ second) := by
  induction before generalizing first with
  | nil =>
    obtain rfl : first = [] := hfirst
    exact hsecond
  | cons part before ih =>
    obtain ⟨hpart, hbefore⟩ := List.ne_and_not_mem_of_not_mem_cons hrun
    obtain ⟨c, first, rfl, hc, hfirst⟩ := (fits_cons hpart before first).mp hfirst
    exact (fits_cons_cons hpart _ c _).mpr ⟨hc, ih hbefore hfirst⟩

/-- Where parts without `*` fit first, nothing is lost for the parts behind them: what these fit
behind a later place is a suffix of what is left behind the first one. -/
theorem exists_fits_of_isSuffix {passed left suffix : List Char} (hrun : .anyRun ∉ before)
    (hpassed : Fits before passed) (hsuffix : suffix <:+ passed ++ left)
    (h : Fits (before ++ rest) suffix) : ∃ later, later <:+ left ∧ Fits rest later := by
  obtain ⟨first, second, rfl, hfirst, hsecond⟩ := exists_append_of_fits hrun h
  have hlength : first.length = passed.length :=
    (length_eq_of_fits hrun hfirst).trans (length_eq_of_fits hrun hpassed).symm
  have hshort : second.length ≤ left.length := by
    have hle := hsuffix.length_le
    simp only [List.length_append] at hle
    omega
  have hsecond' : second <:+ passed ++ left := (List.suffix_append first second).trans hsuffix
  exact ⟨second, List.suffix_of_suffix_length_le hsecond' (List.suffix_append passed left) hshort,
    hsecond⟩

end

/-! ## Up to the first `*` -/

/-- What the way through the parts before the first `*` says about them. -/
inductive Advanced : List Part → List Char → Advance → Prop where
  | mismatch {parts : List Part} {text : List Char} :
      ¬ Fits parts text → Advanced parts text .mismatch
  | ended {before rest : List Part} {text : List Char} :
      .anyRun ∉ before → Fits before text → Advanced (before ++ rest) text (.ended rest)
  | star {before rest : List Part} {passed left : List Char} :
      .anyRun ∉ before → Fits before passed →
        Advanced (before ++ .anyRun :: rest) (passed ++ left) (.star rest left)

theorem Advanced.cons {parts : List Part} {text : List Char} {result : Advance}
    (h : Advanced parts text result) {part : Part} (hpart : .anyRun ≠ part) {c : Char}
    (hc : part.Admits c) : Advanced (part :: parts) (c :: text) result := by
  have hfits {before : List Part} {passed : List Char} (hbefore : Fits before passed) :
      Fits (part :: before) (c :: passed) := (fits_cons_cons hpart before c passed).mpr ⟨hc, hbefore⟩
  cases h with
  | mismatch hnot =>
    refine .mismatch ?_
    intro h
    exact hnot ((fits_cons_cons hpart _ c _).mp h).2
  | ended hrun hbefore =>
    exact .ended (List.not_mem_cons_of_ne_of_not_mem hpart hrun) (hfits hbefore)
  | star hrun hbefore =>
    exact .star (List.not_mem_cons_of_ne_of_not_mem hpart hrun) (hfits hbefore)

theorem advanced (parts : List Part) (text : List Char) :
    Advanced parts text (advance parts text) := by
  fun_induction advance parts text with
  | case1 parts => exact @Advanced.ended [] parts [] List.not_mem_nil rfl
  | case2 c text =>
    refine .mismatch ?_
    intro h
    cases h
  | case3 parts text => exact @Advanced.star [] parts [] text List.not_mem_nil rfl
  | case4 parts c text ih => exact ih.cons (by simp) trivial
  | case5 c parts d text heq ih => exact ih.cons (by simp) (beq_iff_eq.mp heq)
  | case6 c parts d text hne =>
    refine .mismatch ?_
    intro h
    exact hne (beq_iff_eq.mpr ((fits_cons_cons (by simp) parts d text).mp h).1)

/-- What is still to be found out. -/
def Advance.Succeeds : Advance → Prop
  | .mismatch => False
  | .ended parts => Fits parts []
  | .star parts text => ∃ suffix, suffix <:+ text ∧ Fits parts suffix

section

variable {parts : List Part} {text : List Char} {result : Advance}

/-- A later place in the text has nothing that is not found from the first one. -/
theorem Advanced.succeeds (h : Advanced parts text result) (hresult : result ≠ .mismatch)
    {suffix : List Char} (hsuffix : suffix <:+ text) (hfits : Fits parts suffix) :
    result.Succeeds := by
  cases h with
  | mismatch hnot => exact absurd rfl hresult
  | ended hrun hbefore =>
    rw [← List.append_nil text] at hsuffix
    obtain ⟨later, hlater, hrest⟩ := exists_fits_of_isSuffix hrun hbefore hsuffix hfits
    obtain rfl := List.suffix_nil.mp hlater
    exact hrest
  | star hrun hbefore =>
    obtain ⟨later, hlater, shorter, hshorter, hrest⟩ :=
      exists_fits_of_isSuffix hrun hbefore hsuffix hfits
    exact ⟨shorter, hshorter.trans hlater, hrest⟩

theorem Advanced.fits_iff (h : Advanced parts text result) :
    Fits parts text ↔ result.Succeeds := by
  constructor
  · intro hfits
    refine h.succeeds ?_ (List.suffix_refl text) hfits
    rintro rfl
    cases h with
    | mismatch hnot => exact hnot hfits
  · intro hresult
    cases h with
    | mismatch hnot => exact hresult.elim
    | ended hrun hbefore =>
      rw [← List.append_nil text]
      exact fits_append hrun hbefore hresult
    | star hrun hbefore => exact fits_append hrun hbefore hresult

theorem Advanced.exists_suffix_iff (h : Advanced parts text result) (hresult : result ≠ .mismatch) :
    (∃ suffix, suffix <:+ text ∧ Fits parts suffix) ↔ result.Succeeds := by
  constructor
  · rintro ⟨suffix, hsuffix, hfits⟩
    exact h.succeeds hresult hsuffix hfits
  · intro hsucceeds
    exact ⟨text, List.suffix_refl text, h.fits_iff.mpr hsucceeds⟩

end

/-! ## The whole pattern -/

theorem acceptsEmpty_iff (parts : List Part) : acceptsEmpty parts = true ↔ Fits parts [] := by
  induction parts with
  | nil => simp [acceptsEmpty, Fits]
  | cons part parts ih =>
    rw [acceptsEmpty] at ih
    cases part <;> simp [acceptsEmpty, Fits, ih]

theorem acceptsSuffix_iff (parts : List Part) (text : List Char) :
    acceptsSuffix parts text = true ↔ ∃ suffix, suffix <:+ text ∧ Fits parts suffix := by
  fun_induction acceptsSuffix parts text with
  | case1 parts text rest hadvance =>
    have hadvanced := advanced parts text
    rw [hadvance] at hadvanced
    rw [hadvanced.exists_suffix_iff (by simp)]
    exact acceptsEmpty_iff rest
  | case2 parts text rest left hadvance ih =>
    have hadvanced := advanced parts text
    rw [hadvance] at hadvanced
    rw [hadvanced.exists_suffix_iff (by simp), ih]
    exact Iff.rfl
  | case3 parts hadvance =>
    have hadvanced := advanced parts []
    rw [hadvance] at hadvanced
    simpa [Advance.Succeeds] using hadvanced.fits_iff
  | case4 parts c text hadvance ih =>
    have hadvanced := advanced parts (c :: text)
    rw [hadvance] at hadvanced
    have hnot : ¬ Fits parts (c :: text) := hadvanced.fits_iff.mp
    simp [List.suffix_cons_iff, or_and_right, exists_or, hnot, ih]

theorem accepts_iff (parts : List Part) (text : List Char) :
    accepts parts text = true ↔ Fits parts text := by
  rw [(advanced parts text).fits_iff, accepts]
  cases advance parts text with
  | mismatch => simp [Advance.Succeeds]
  | ended rest => exact acceptsEmpty_iff rest
  | star rest left => exact acceptsSuffix_iff rest left

end Pattern

/-- A selector matches a name if and only if its pattern stands for it, both in lower case. -/
theorem matchesWith_iff (lower : Char → List Char) (selector : Selector) (name : String) :
    selector.matchesWith lower name = true ↔
      Denotes (selector.source.toList.flatMap lower) (name.toList.flatMap lower) := by
  rw [Selector.matchesWith, Pattern.accepts_iff, Selector.parts, Pattern.fits_ofChar]

/-- The last `*` takes more of the text when what follows it fails; the first one never has to. -/
example : Selector.matchesWith (fun c => [c]) ⟨"a*b?*cd"⟩ "abbbxccd" = true := by
  cbv

end MailTemplate.Css
