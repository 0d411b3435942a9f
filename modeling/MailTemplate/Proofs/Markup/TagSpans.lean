import Mathlib.Data.List.Basic
import Mathlib.Data.List.TakeWhile
import MailTemplate.Markup.Span

/-! # The tags of a token list

A tag is found for each splitting of the tokens before and behind a tag token, and it reaches as far
as attribute tokens follow (`mem_tagSpans`). So the tags follow each other without overlapping
(`pairwise_tagSpans`), and they are the same ones if the search goes on at the end of each tag
(`tagSpans_eq_tagSpansAt`). -/

namespace MailTemplate.Markup

/-- The tokens that a tag ends before. -/
def endsTag (token : Token) : Bool :=
  token.isTag || token.kind == .content

theorem endsTag_eq (token : Token) : endsTag token = !token.isAttribute := by
  rw [endsTag, Token.isTag, Token.isAttribute]
  cases token.kind <;> rfl

/-! ## Finding tags -/

theorem map_tag_tagSpansFrom (position : Nat) (tokens : List Token) :
    (tagSpansFrom position tokens).map TagSpan.tag = tokens.findIdxs Token.isTag position := by
  induction tokens generalizing position with
  | nil => rfl
  | cons token tokens ih =>
    rw [tagSpansFrom, List.findIdxs_cons]
    split
    · rw [List.map_cons, ih]
    · exact ih (position + 1)

theorem mem_tagSpansFrom {position : Nat} {tokens : List Token} {span : TagSpan} :
    span ∈ tagSpansFrom position tokens ↔
      ∃ before tag behind, tokens = before ++ tag :: behind ∧ tag.isTag = true ∧
        span = ⟨position + before.length,
          position + before.length + 1 + (attributesOf behind).length⟩ := by
  induction tokens generalizing position with
  | nil => simp [tagSpansFrom]
  | cons token tokens ih =>
    have hlater : span ∈ tagSpansFrom (position + 1) tokens ↔
        ∃ before tag behind, tokens = before ++ tag :: behind ∧ tag.isTag = true ∧
          span = ⟨position + (token :: before).length,
            position + (token :: before).length + 1 + (attributesOf behind).length⟩ := by
      simp only [ih, List.length_cons, Nat.add_comm, Nat.add_left_comm]
    constructor
    · intro h
      rw [tagSpansFrom] at h
      have hcases : token.isTag = true ∧
          span = ⟨position, position + 1 + (attributesOf tokens).length⟩ ∨
            span ∈ tagSpansFrom (position + 1) tokens := by
        split at h
        · next htag => exact (List.mem_cons.mp h).imp_left fun hspan => ⟨htag, hspan⟩
        · exact .inr h
      rcases hcases with ⟨htag, rfl⟩ | h
      · exact ⟨[], token, tokens, rfl, htag, rfl⟩
      · obtain ⟨before, tag, behind, rfl, htag, hspan⟩ := hlater.mp h
        exact ⟨token :: before, tag, behind, rfl, htag, hspan⟩
    · rintro ⟨before, tag, behind, htokens, htag, hspan⟩
      rw [tagSpansFrom]
      cases before with
      | nil =>
        obtain ⟨rfl, rfl⟩ := List.cons.inj htokens
        rw [if_pos htag, hspan]
        exact List.mem_cons_self
      | cons first before =>
        obtain ⟨rfl, rfl⟩ := List.cons.inj htokens
        have hmem := hlater.mpr ⟨before, tag, behind, rfl, htag, hspan⟩
        split
        · exact List.mem_cons_of_mem _ hmem
        · exact hmem

theorem mem_tagSpans {tokens : List Token} {span : TagSpan} :
    span ∈ tagSpans tokens ↔
      ∃ before tag behind, tokens = before ++ tag :: behind ∧ tag.isTag = true ∧
        span = ⟨before.length, before.length + 1 + (attributesOf behind).length⟩ := by
  simp only [tagSpans, mem_tagSpansFrom, Nat.zero_add]

/-! ## The order of tags -/

theorem length_attributesOf_le (before behind : List Token) {token : Token}
    (h : token.isAttribute = false) :
    (attributesOf (before ++ token :: behind)).length ≤ before.length := by
  induction before with
  | nil => rw [List.nil_append, attributesOf_cons_of_neg (by simp [h])]
  | cons first before ih =>
    rw [List.cons_append]
    by_cases hfirst : first.isAttribute = true
    · rw [attributesOf_cons_of_pos hfirst]
      exact Nat.succ_le_succ ih
    · rw [attributesOf_cons_of_neg hfirst]
      exact Nat.zero_le _

/-- A search that begins in a tag finds the next one behind it. -/
theorem le_tag_of_mem_tagSpansFrom {position : Nat} {tokens : List Token} {span : TagSpan}
    (h : span ∈ tagSpansFrom position tokens) :
    position + (attributesOf tokens).length ≤ span.tag := by
  obtain ⟨before, tag, behind, rfl, htag, rfl⟩ := mem_tagSpansFrom.mp h
  have hle := length_attributesOf_le before behind (Kind.isAttribute_of_isTag htag)
  exact Nat.add_le_add_left hle position

theorem pairwise_tagSpansFrom (position : Nat) (tokens : List Token) :
    (tagSpansFrom position tokens).Pairwise fun earlier later => earlier.stop ≤ later.tag := by
  induction tokens generalizing position with
  | nil => exact .nil
  | cons token tokens ih =>
    rw [tagSpansFrom]
    split
    · exact .cons (fun later hlater => le_tag_of_mem_tagSpansFrom hlater) (ih (position + 1))
    · exact ih (position + 1)

theorem pairwise_tagSpans (tokens : List Token) :
    (tagSpans tokens).Pairwise fun earlier later => earlier.stop ≤ later.tag :=
  pairwise_tagSpansFrom 0 tokens

/-! ## The tokens of a tag -/

/-- A span that holds a tag and everything that belongs to it. -/
structure TagSpan.Holds (span : TagSpan) (tokens : List Token) : Prop where
  isTag : ∃ token, tokens[span.tag]? = some token ∧ token.isTag = true
  lt : span.tag < span.stop
  le : span.stop ≤ tokens.length
  inside : ∀ position token, span.tag < position → position < span.stop →
    tokens[position]? = some token → endsTag token = false
  stop : span.stop = tokens.length ∨
    ∃ token, tokens[span.stop]? = some token ∧ endsTag token = true

theorem getElem?_behind (before behind : List Token) (tag : Token) (n : Nat) :
    (before ++ tag :: behind)[before.length + 1 + n]? = behind[n]? := by
  rw [List.getElem?_append_right (by omega),
    show before.length + 1 + n - before.length = n + 1 by omega, List.getElem?_cons_succ]

theorem attributesOf_append_dropWhile (tokens : List Token) :
    attributesOf tokens ++ tokens.dropWhile Token.isAttribute = tokens :=
  List.takeWhile_append_dropWhile

theorem holds_of_mem_tagSpans {tokens : List Token} {span : TagSpan} (h : span ∈ tagSpans tokens) :
    span.Holds tokens := by
  obtain ⟨before, tag, behind, rfl, htag, rfl⟩ := mem_tagSpans.mp h
  have hcut := attributesOf_append_dropWhile behind
  have hbehind := getElem?_behind before behind tag
  refine ⟨⟨tag, by simp, htag⟩, by simp only; omega, ?_, ?_, ?_⟩
  · have hle := (List.takeWhile_sublist Token.isAttribute (l := behind)).length_le
    simp only [List.length_append, List.length_cons, attributesOf]
    omega
  · intro position token hfirst hlast hget
    obtain ⟨n, rfl⟩ := Nat.exists_eq_add_of_le (show before.length + 1 ≤ position from hfirst)
    have hn : n < (attributesOf behind).length := Nat.lt_of_add_lt_add_left hlast
    rw [hbehind, ← hcut, List.getElem?_append_left hn] at hget
    rw [endsTag_eq, List.mem_takeWhile_imp (List.mem_of_getElem? hget)]
    rfl
  · cases hrest : behind.dropWhile Token.isAttribute with
    | nil =>
      rw [hrest, List.append_nil] at hcut
      left
      simp only [hcut, List.length_append, List.length_cons]
      omega
    | cons token rest =>
      rw [hrest] at hcut
      have hget : (attributesOf behind ++ token :: rest)[(attributesOf behind).length]? =
          some token := by simp
      rw [hcut] at hget
      refine .inr ⟨token, (hbehind _).trans hget, ?_⟩
      · have hne : behind.dropWhile Token.isAttribute ≠ [] := by simp [hrest]
        have hhead := List.head_dropWhile_not Token.isAttribute hne
        simp only [hrest, List.head_cons] at hhead
        rw [endsTag_eq, hhead]
        rfl

/-! ## The nearest tag -/

theorem exists_mem_tagSpans {tokens : List Token} {position : Nat} {token : Token}
    (h : tokens[position]? = some token) (htag : token.isTag = true) :
    ∃ span ∈ tagSpans tokens, span.tag = position := by
  obtain ⟨hlt, rfl⟩ := List.getElem?_eq_some_iff.mp h
  have hmem : position ∈ tokens.findIdxs Token.isTag :=
    List.mem_findIdxs_iff_exists_getElem_pos.mpr ⟨hlt, htag⟩
  rw [← map_tag_tagSpansFrom 0 tokens] at hmem
  exact List.mem_map.mp hmem

structure NearestTag (tokens : List Token) (tag position : Nat) : Prop where
  isTag : ∃ token, tokens[tag]? = some token ∧ token.isTag = true
  lt : tag < position
  nearest : ∀ between token, tag < between → between < position →
    tokens[between]? = some token → token.isTag = false

theorem not_endsTag_iff {token : Token} :
    endsTag token = false ↔ token.isTag = false ∧ token.kind ≠ .content := by
  simp [endsTag]

theorem TagSpan.Holds.nearestTag {tokens : List Token} {span : TagSpan} (h : span.Holds tokens)
    {position : Nat} (hfirst : span.tag < position) (hlast : position < span.stop) :
    NearestTag tokens span.tag position := by
  refine ⟨h.isTag, hfirst, fun between token hafter hbefore hget => ?_⟩
  exact (not_endsTag_iff.mp (h.inside between token hafter (by omega) hget)).1

/-- A tag goes on as long as there is no content. -/
theorem NearestTag.belongs_iff {tokens : List Token} {tag position : Nat} {token : Token}
    (h : NearestTag tokens tag position) (hget : tokens[position]? = some token)
    (htoken : token.isAttribute = true) :
    (∃ span ∈ tagSpans tokens, span.tag = tag ∧ position < span.stop) ↔
      ∀ between other, tag < between → between < position →
        tokens[between]? = some other → other.kind ≠ .content := by
  constructor
  · rintro ⟨span, hmem, rfl, hlast⟩ between other hafter hbefore hother
    have hinside := (holds_of_mem_tagSpans hmem).inside between other hafter (by omega) hother
    exact (not_endsTag_iff.mp hinside).2
  · intro hcontent
    obtain ⟨name, hname, htag⟩ := h.isTag
    obtain ⟨span, hmem, rfl⟩ := exists_mem_tagSpans hname htag
    refine ⟨span, hmem, rfl, ?_⟩
    have hholds := holds_of_mem_tagSpans hmem
    -- what the span ends before can be neither the token nor stand in front of it
    by_contra hlast
    obtain ⟨hlength, -⟩ := List.getElem?_eq_some_iff.mp hget
    obtain ⟨last, hstop, hends⟩ := hholds.stop.resolve_left (by omega)
    rcases Nat.lt_or_eq_of_le (Nat.le_of_not_lt hlast) with hbefore | heq
    · have hinside : endsTag last = false := not_endsTag_iff.mpr
        ⟨h.nearest span.stop last hholds.lt hbefore hstop,
          hcontent span.stop last hholds.lt hbefore hstop⟩
      rw [hinside] at hends
      cases hends
    · rw [heq, hget] at hstop
      obtain rfl := Option.some.inj hstop
      rw [endsTag_eq, htoken] at hends
      cases hends

/-! ## Going on at the end of a tag -/

/-- The position of the first token behind a tag name that the tag ends before. -/
def tagStop (tokens : List Token) (tag : Nat) : Nat :=
  ((tokens.drop (tag + 1)).findIdx? endsTag).elim tokens.length (tag + 1 + ·)

theorem lt_tagStop {tokens : List Token} {tag : Nat} (h : tag < tokens.length) :
    tag < tagStop tokens tag := by
  unfold tagStop
  cases (tokens.drop (tag + 1)).findIdx? endsTag with
  | none => exact h
  | some distance => exact Nat.lt_of_lt_of_le (Nat.lt_succ_self tag) (Nat.le_add_right _ _)

/-- The tags from a position on, where the search goes on at the end of each tag. -/
def tagSpansAt (tokens : List Token) (position : Nat) : List TagSpan :=
  if h : position < tokens.length then
    if tokens[position].isTag then
      ⟨position, tagStop tokens position⟩ :: tagSpansAt tokens (tagStop tokens position)
    else tagSpansAt tokens (position + 1)
  else []
termination_by tokens.length - position
decreasing_by
  · have := lt_tagStop h
    omega
  · omega

theorem elim_findIdx?_endsTag (tokens : List Token) (position : Nat) :
    (tokens.findIdx? endsTag).elim (position + tokens.length) (position + ·) =
      position + (attributesOf tokens).length := by
  induction tokens generalizing position with
  | nil => rfl
  | cons token tokens ih =>
    rw [List.findIdx?_cons, endsTag_eq]
    by_cases h : token.isAttribute = true
    · have hnext (n : Nat) : position + (n + 1) = position + 1 + n := by omega
      rw [h, Bool.not_true, if_neg Bool.false_ne_true, attributesOf_cons_of_pos h, List.length_cons,
        List.length_cons, hnext tokens.length, hnext (attributesOf tokens).length,
        ← ih (position + 1)]
      cases tokens.findIdx? endsTag with
      | none => rfl
      | some distance => exact hnext distance
    · rw [attributesOf_cons_of_neg h]
      simp [h]

theorem tagStop_eq {tokens : List Token} {tag : Nat} (h : tag < tokens.length) :
    tagStop tokens tag = tag + 1 + (attributesOf (tokens.drop (tag + 1))).length := by
  have hlength : tokens.length = tag + 1 + (tokens.drop (tag + 1)).length := by
    rw [List.length_drop]
    omega
  rw [tagStop, ← elim_findIdx?_endsTag, ← hlength]

theorem tagSpansFrom_attributes (position : Nat) (tokens : List Token) :
    tagSpansFrom position tokens =
      tagSpansFrom (position + (attributesOf tokens).length)
        (tokens.drop (attributesOf tokens).length) := by
  induction tokens generalizing position with
  | nil => rfl
  | cons token tokens ih =>
    by_cases h : token.isAttribute = true
    · have hends : endsTag token = false := by rw [endsTag_eq, h, Bool.not_true]
      have htag := (not_endsTag_iff.mp hends).1
      rw [tagSpansFrom, htag, if_neg Bool.false_ne_true, ih, attributesOf_cons_of_pos h,
        List.length_cons, List.drop_succ_cons]
      congr 1
      omega
    · rw [attributesOf_cons_of_neg h]
      rfl

theorem tagSpansAt_eq (tokens : List Token) (position : Nat) :
    tagSpansAt tokens position = tagSpansFrom position (tokens.drop position) := by
  fun_induction tagSpansAt tokens position with
  | case1 position h htag ih =>
    rw [List.drop_eq_getElem_cons h, tagSpansFrom, if_pos htag, ih, tagSpansFrom_attributes
      (position + 1), List.drop_drop, tagStop_eq h]
  | case2 position h htag ih =>
    rw [List.drop_eq_getElem_cons h, tagSpansFrom, if_neg htag, ih]
  | case3 position h => rw [List.drop_eq_nil_of_le (Nat.le_of_not_lt h), tagSpansFrom]

theorem tagSpans_eq_tagSpansAt (tokens : List Token) : tagSpans tokens = tagSpansAt tokens 0 :=
  (tagSpansAt_eq tokens 0).symm

/-- There is one span for each tag, in the order of the tags, with everything from the tag up to the
next tag or content. They do not overlap, and a token of an attribute is in that of the nearest tag
before it, unless content is between them. -/
theorem tagSpans_exact (tokens : List Token) :
    tagSpans tokens = tagSpansAt tokens 0 ∧
      (tagSpans tokens).map TagSpan.tag = tokens.findIdxs Token.isTag ∧
      (∀ span ∈ tagSpans tokens, span.Holds tokens) ∧
      ((tagSpans tokens).Pairwise fun earlier later => earlier.stop ≤ later.tag) ∧
      ∀ position token, tokens[position]? = some token → token.isAttribute = true →
        (∀ span ∈ tagSpans tokens, span.tag < position → position < span.stop →
          NearestTag tokens span.tag position) ∧
        ∀ tag, NearestTag tokens tag position →
          ((∃ span ∈ tagSpans tokens, span.tag = tag ∧ position < span.stop) ↔
            ∀ between other, tag < between → between < position →
              tokens[between]? = some other → other.kind ≠ .content) := by
  refine ⟨tagSpans_eq_tagSpansAt tokens, map_tag_tagSpansFrom 0 tokens,
    fun _ hmem => holds_of_mem_tagSpans hmem, pairwise_tagSpans tokens, ?_⟩
  intro position token hget htoken
  refine ⟨fun span hmem hfirst hlast => ?_, fun tag hnearest => ?_⟩
  · exact (holds_of_mem_tagSpans hmem).nearestTag hfirst hlast
  · exact hnearest.belongs_iff hget htoken

/-- A paragraph whose value is cut off from it by content. -/
def splitParagraph : List Token :=
  [⟨.tagOpen, "p "⟩, ⟨.attributeName, "id"⟩, ⟨.content, "text"⟩, ⟨.attributeValue, "v"⟩]

theorem tagSpans_exact_splitParagraph :
    ⟨0, 2⟩ ∈ tagSpans splitParagraph ∧ NearestTag splitParagraph 0 1 ∧
      NearestTag splitParagraph 0 3 ∧
      ¬ ∃ span ∈ tagSpans splitParagraph, span.tag = 0 ∧ 3 < span.stop := by
  obtain ⟨-, -, -, -, hbelongs⟩ := tagSpans_exact splitParagraph
  have hmem : ⟨0, 2⟩ ∈ tagSpans splitParagraph := by decide
  have hname := (hbelongs 1 ⟨.attributeName, "id"⟩ rfl rfl).1 ⟨0, 2⟩ hmem (by decide) (by decide)
  have hvalue : NearestTag splitParagraph 0 3 := by
    refine ⟨hname.isTag, by decide, fun between token hafter hbefore hget => ?_⟩
    obtain rfl | rfl : between = 1 ∨ between = 2 := by omega
    all_goals
      cases hget
      rfl
  refine ⟨hmem, hname, hvalue, fun h => ?_⟩
  have hcontent := ((hbelongs 3 ⟨.attributeValue, "v"⟩ rfl rfl).2 0 hvalue).mp h
  exact hcontent 2 ⟨.content, "text"⟩ (by decide) (by decide) rfl rfl

end MailTemplate.Markup
