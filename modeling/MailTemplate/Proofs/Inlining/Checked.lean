import MailTemplate.Proofs.Inlining.SafeScan
import MailTemplate.Proofs.Markup.TagSpans

/-! # Injecting with checked positions

Injecting reads and edits a document by position. Here it is done with a check at every position: a
read of a token that is not there fails, and so does an edit that reaches behind the end. The blanks
around a class attribute are looked at one by one. Nothing of this ever fails, and the result is the
same (`inject?_eq`). -/

namespace MailTemplate.Inlining

open Markup

/-! ## Checked reads -/

def hasKindAt? (tokens : List Token) (stop position : Nat) (kind : Kind) : Option Bool :=
  if position < stop then tokens[position]?.map (·.kind == kind) else some false

def groupAt? (tokens : List Token) (stop name : Nat) : Option Group := do
  if !(← hasKindAt? tokens stop (name + 1) .attributeEquals) then return ⟨none, name + 1⟩
  if !(← hasKindAt? tokens stop (name + 2) .attributeValue) then return ⟨none, name + 2⟩
  return ⟨some (name + 2), name + 3⟩

/-- How many blanks there are from a position on. -/
def blanksBehind? (tokens : List Token) (stop position : Nat) : Option Nat :=
  if position < stop then
    match tokens[position]? with
    | none => none
    | some token =>
      if token.isBlank then (blanksBehind? tokens stop (position + 1)).map (· + 1) else some 0
  else some 0
termination_by stop - position

/-- How many blanks there are before a position. -/
def blanksBefore? (tokens : List Token) (floor : Nat) : Nat → Option Nat
  | 0 => some 0
  | position + 1 =>
    if floor < position + 1 then
      match tokens[position]? with
      | none => none
      | some token =>
        if token.isBlank then (blanksBefore? tokens floor position).map (· + 1) else some 0
    else some 0

def addClassRange? (tokens : List Token) (span : TagSpan) (ranges : List Range)
    (name stop : Nat) : Option (List Range) :=
  if stop == span.stop then do
    let (ranges, start) := joinAdjacent ranges name
    let floor := ranges.head?.elim (span.tag + 1) Range.stop
    let blanks ← blanksBefore? tokens floor start
    return ⟨start - blanks, stop⟩ :: ranges
  else return ⟨name, stop⟩ :: ranges

def TagAttributes.withClass? (found : TagAttributes) (tokens : List Token) (span : TagSpan)
    (name stop : Nat) (value : Option Nat) : Option TagAttributes := do
  let classes ← match value with
    | none => some []
    | some value => tokens[value]?.map (Text.words ·.text)
  let ranges ← addClassRange? tokens span found.classRanges name stop
  return ⟨found.classes ++ classes, ranges, found.style⟩

/-- A scan that does not move on fails, too. -/
def scanFrom? (tokens : List Token) (span : TagSpan) (position : Nat) (found : TagAttributes) :
    Option TagAttributes :=
  if position < span.stop then do
    let token ← tokens[position]?
    if token.kind != .attributeName then scanFrom? tokens span (position + 1) found
    else
      let group ← groupAt? tokens span.stop position
      if position < group.stop then
        if token.isNamed "class" then
          let blanks ← blanksBehind? tokens span.stop group.stop
          let found ← found.withClass? tokens span position (group.stop + blanks) group.value
          scanFrom? tokens span (group.stop + blanks) found
        else if token.isNamed "style" then
          scanFrom? tokens span group.stop (found.withStyle position group)
        else scanFrom? tokens span group.stop found
      else none
  else some found
termination_by span.stop - position

def scanAttributes? (tokens : List Token) (span : TagSpan) : Option TagAttributes := do
  let found ← scanFrom? tokens span (span.tag + 1) {}
  return { found with classRanges := found.classRanges.reverse }

/-! ## Checked edits -/

section

variable {α : Type}

def Range.remove? (range : Range) (items : List α) : Option (List α) :=
  if range.start ≤ range.stop ∧ range.stop ≤ items.length then some (range.remove items) else none

def Range.removeAll? (ranges : List Range) (items : List α) : Option (List α) :=
  ranges.foldrM Range.remove? items

def insertAt? (position : Nat) (added items : List α) : Option (List α) :=
  if position ≤ items.length then some (insertAt position added items) else none

def modify? (position : Nat) (f : α → α) (items : List α) : Option (List α) :=
  if position < items.length then some (items.modify position f) else none

end

def restyle? (tokens : List Token) (tag : Nat) (found : TagAttributes) (declarations : String) :
    Option (List Token) :=
  match found.style with
  | some (.withValue position) => do
    let tokens ← modify? position (withDeclarations declarations) tokens
    Range.removeAll? found.classRanges tokens
  | some (.bare last hasEquals) => do
    if declarations.isEmpty then Range.removeAll? found.classRanges tokens
    else
      let added := completion hasEquals declarations
      let tokens ← insertAt? (last + 1) added tokens
      Range.removeAll? (shiftAfter last added.length found.classRanges) tokens
  | none => do
    let tokens ← Range.removeAll? found.classRanges tokens
    if declarations.isEmpty then return tokens
    else
      let tokens ← modify? tag separated tokens
      insertAt? (tag + 1) (styleGroup declarations) tokens

def injectSpan? (sheet : Css.Stylesheet) (span : TagSpan) (tokens : List Token) :
    Option (List Token) := do
  let found ← scanAttributes? tokens span
  let tag ← tokens[span.tag]?
  restyle? tokens span.tag found (declarationsOfTag sheet tag found.classes)

def inject? (sheet : Css.Stylesheet) (tokens : List Token) : Option (List Token) :=
  (tagSpans tokens).foldrM (injectSpan? sheet) tokens

/-! ## Reads do not fail -/

section

variable {tokens : List Token} {stop : Nat}

theorem hasKindAt?_eq (hbound : stop ≤ tokens.length) (position : Nat) (kind : Kind) :
    hasKindAt? tokens stop position kind = some (hasKindAt tokens stop position kind) := by
  unfold hasKindAt? hasKindAt
  split
  · next hlt =>
    rw [List.getElem?_eq_getElem (Nat.lt_of_lt_of_le hlt hbound)]
    simp [hlt]
  · next hlt => simp [hlt]

theorem groupAt?_eq (hbound : stop ≤ tokens.length) (name : Nat) :
    groupAt? tokens stop name = some (groupAt tokens stop name) := by
  unfold groupAt? groupAt
  rw [hasKindAt?_eq hbound, hasKindAt?_eq hbound]
  simp only [Option.bind_eq_bind, Option.bind_some]
  split
  · rfl
  · split <;> rfl

theorem extract_eq_cons {first last : Nat} (hlt : first < last) (hbound : first < tokens.length) :
    tokens.extract first last = tokens[first] :: tokens.extract (first + 1) last := by
  rw [List.extract_eq_take_drop, List.extract_eq_take_drop, List.drop_eq_getElem_cons hbound,
    show last - first = last - (first + 1) + 1 by omega, List.take_succ_cons]

theorem extract_eq_concat {first last : Nat} (hle : first ≤ last) (hbound : last < tokens.length) :
    tokens.extract first (last + 1) = tokens.extract first last ++ [tokens[last]] := by
  have hget : (tokens.drop first)[last - first]? = some tokens[last] := by
    rw [List.getElem?_drop, Nat.add_sub_cancel' hle, List.getElem?_eq_getElem hbound]
  rw [List.extract_eq_take_drop, List.extract_eq_take_drop, Nat.succ_sub hle, List.take_add_one, hget]
  rfl

theorem extract_eq_nil {first last : Nat} (hle : last ≤ first) :
    tokens.extract first last = [] := by
  rw [List.extract_eq_take_drop, Nat.sub_eq_zero_of_le hle, List.take_zero]

theorem blankCount_cons (token : Token) (rest : List Token) :
    blankCount (token :: rest) = if token.isBlank then blankCount rest + 1 else 0 := by
  rw [blankCount, List.takeWhile_cons]
  split <;> rfl

theorem blanksBehind?_eq (hbound : stop ≤ tokens.length) (position : Nat) :
    blanksBehind? tokens stop position = some (blankCount (tokens.extract position stop)) := by
  fun_induction blanksBehind? tokens stop position with
  | case1 position hlt hnone =>
    have := List.getElem?_eq_none_iff.mp hnone
    omega
  | case2 position hlt token hget hblank ih =>
    obtain ⟨hlength, rfl⟩ := List.getElem?_eq_some_iff.mp hget
    rw [ih, extract_eq_cons hlt hlength, blankCount_cons, if_pos hblank, Option.map_some]
  | case3 position hlt token hget hblank =>
    obtain ⟨hlength, rfl⟩ := List.getElem?_eq_some_iff.mp hget
    rw [extract_eq_cons hlt hlength, blankCount_cons, if_neg hblank]
  | case4 position hlt =>
    rw [extract_eq_nil (Nat.le_of_not_lt hlt)]
    rfl

theorem blanksBefore?_eq (floor : Nat) {position : Nat} (hbound : position ≤ tokens.length) :
    blanksBefore? tokens floor position =
      some (blankCount (tokens.extract floor position).reverse) := by
  induction position with
  | zero =>
    rw [extract_eq_nil (Nat.zero_le floor)]
    rfl
  | succ position ih =>
    rw [blanksBefore?]
    split
    · next hlt =>
      have hlength : position < tokens.length := hbound
      rw [List.getElem?_eq_getElem hlength, extract_eq_concat (Nat.le_of_lt_succ hlt) hlength,
        List.reverse_concat, blankCount_cons, ih (Nat.le_of_lt hlength)]
      simp only
      split <;> rfl
    · next hlt =>
      rw [extract_eq_nil (Nat.le_of_not_lt hlt)]
      rfl

end

theorem addClassRange?_eq {tokens : List Token} {span : TagSpan} {ranges : List Range} {name : Nat}
    (h : InOrder span name ranges) (hbound : name ≤ tokens.length) (stop : Nat) :
    addClassRange? tokens span ranges name stop =
      some (addClassRange tokens span ranges name stop) := by
  have hfirst := (joined_joinAdjacent h).first_le
  unfold addClassRange? addClassRange
  split
  · generalize joinAdjacent ranges name = joined at hfirst ⊢
    simp only [blanksBefore?_eq _ (hfirst.trans hbound)]
    rfl
  · rfl

theorem withClass?_eq {tokens : List Token} {span : TagSpan} {found : TagAttributes} {name : Nat}
    (h : Sound tokens span name found) (hbound : span.stop ≤ tokens.length)
    (hlt : name < span.stop) (stop : Nat) :
    let group := groupAt tokens span.stop name
    found.withClass? tokens span name stop group.value =
      some (found.withClass tokens span name stop group.value) := by
  intro group
  have hranges := addClassRange?_eq h.ranges.toInOrder (h.last.trans hbound) stop
  unfold TagAttributes.withClass? TagAttributes.withClass
  cases hvalue : group.value with
  | none =>
    simp only [hranges]
    rfl
  | some value =>
    have hstop : group.stop = value + 1 := value_groupAt hvalue
    have hle : group.stop ≤ span.stop := stop_groupAt_le hlt
    have hlength : value < tokens.length := by omega
    simp only [hranges, List.getElem?_eq_getElem hlength, Option.bind_some]
    rfl

theorem scanFrom?_eq {tokens : List Token} {span : TagSpan} {position : Nat} {found : TagAttributes}
    (h : Sound tokens span position found) (hbound : span.stop ≤ tokens.length) :
    scanFrom? tokens span position found = some (scanFrom tokens span position found) := by
  fun_induction scanFrom tokens span position found with
  | case1 position found hlt hnone =>
    have := List.getElem?_eq_none_iff.mp hnone
    omega
  | case2 position found hlt token hget hkind ih =>
    rw [scanFrom?, if_pos hlt, hget]
    simp only [Option.bind_eq_bind, Option.bind_some, if_pos hkind]
    exact ih (h.passToken hlt hget (by simpa using hkind))
  | case3 position found hlt token hget hkind group hafter hclass stop ih =>
    have hsound := h.withClass hbound hlt ⟨token, hget, by simp_all [isClassName_eq]⟩
    have hwith := withClass?_eq h hbound hlt stop
    rw [scanFrom?, if_pos hlt, hget]
    simp only [Option.bind_eq_bind, Option.bind_some, if_neg hkind, groupAt?_eq hbound,
      blanksBehind?_eq hbound]
    rw [if_pos hafter, if_pos hclass, hwith, Option.bind_some]
    exact ih hsound
  | case4 position found hlt token hget hkind group hafter hclass hstyle ih =>
    have hname : Has tokens position isStyleName := ⟨token, hget, by simp_all [isStyleName_eq]⟩
    rw [scanFrom?, if_pos hlt, hget]
    simp only [Option.bind_eq_bind, Option.bind_some, if_neg hkind, groupAt?_eq hbound]
    rw [if_pos hafter, if_neg hclass, if_pos hstyle]
    exact ih ((h.withStyle hlt hname).passGroup hlt hget hclass)
  | case5 position found hlt token hget hkind group hafter hclass hstyle ih =>
    rw [scanFrom?, if_pos hlt, hget]
    simp only [Option.bind_eq_bind, Option.bind_some, if_neg hkind, groupAt?_eq hbound]
    rw [if_pos hafter, if_neg hclass, if_neg hstyle]
    exact ih (h.passGroup hlt hget hclass)
  | case6 position found hlt => rw [scanFrom?, if_neg hlt]

theorem scanAttributes?_eq {tokens : List Token} {span : TagSpan} (hlt : span.tag < span.stop)
    (hbound : span.stop ≤ tokens.length) :
    scanAttributes? tokens span = some (scanAttributes tokens span) := by
  rw [scanAttributes?, scanFrom?_eq (.start tokens hlt) hbound]
  rfl

/-! ## Edits do not fail -/

section

variable {α : Type} {items : List α}

/-- What is before a range stays. -/
theorem le_length_remove {range : Range} {count : Nat} (hstart : count ≤ range.start)
    (hlength : count ≤ items.length) : count ≤ (range.remove items).length := by
  rw [Range.remove, List.length_append, List.length_take]
  omega

theorem le_length_removeAll {ranges : List Range} {count : Nat}
    (hstart : ∀ range ∈ ranges, count ≤ range.start) (hlength : count ≤ items.length) :
    count ≤ (Range.removeAll ranges items).length := by
  induction ranges with
  | nil => exact hlength
  | cons range ranges ih =>
    obtain ⟨hrange, hranges⟩ := List.forall_mem_cons.mp hstart
    exact le_length_remove hrange (ih hranges)

theorem Increasing.removeAll?_eq {span : TagSpan} {ranges : List Range} (h : Increasing span ranges)
    (hbound : span.stop ≤ items.length) :
    Range.removeAll? ranges items = some (Range.removeAll ranges items) := by
  induction ranges with
  | nil => rfl
  | cons range later ih =>
    obtain ⟨hbefore, hordered⟩ := List.pairwise_cons.mp h.ordered
    obtain ⟨hrange, hwithin⟩ := List.forall_mem_cons.mp h.within
    -- the later ranges are gone when it is the turn of this one
    have hlength := le_length_removeAll hbefore (hrange.2.2.trans hbound)
    have hlater := ih ⟨hordered, hwithin⟩
    unfold Range.removeAll? Range.removeAll at hlater ⊢
    rw [List.foldrM_cons, hlater]
    exact if_pos ⟨Nat.le_of_lt hrange.2.1, hlength⟩

theorem modify?_eq {position : Nat} (h : position < items.length) (f : α → α) :
    modify? position f items = some (items.modify position f) :=
  if_pos h

theorem insertAt?_eq {position : Nat} (h : position ≤ items.length) (added : List α) :
    insertAt? position added items = some (insertAt position added items) :=
  if_pos h

theorem length_insertAt (position : Nat) (added items : List α) :
    (insertAt position added items).length = items.length + added.length := by
  simp only [insertAt, List.length_append, List.length_take, List.length_drop]
  omega

end

section

variable {tokens : List Token} {span : TagSpan} {found : TagAttributes}

theorem SafeScan.restyle?_eq (h : SafeScan tokens span found) (hlt : span.tag < span.stop)
    (hbound : span.stop ≤ tokens.length) (declarations : String) :
    restyle? tokens span.tag found declarations =
      some (restyle tokens span.tag found declarations) := by
  cases hstyle : found.style with
  | none =>
    have htag : span.tag < (Range.removeAll found.classRanges tokens).length :=
      le_length_removeAll (fun range hmem => (h.increasing.within range hmem).1)
        (hlt.trans_le hbound)
    simp only [restyle?, restyle, hstyle, h.increasing.removeAll?_eq hbound, Option.bind_eq_bind,
      Option.bind_some]
    split
    · rfl
    · rw [modify?_eq htag, Option.bind_some, insertAt?_eq (by rwa [List.length_modify])]
  | some style =>
    have hlength := (h.style style hstyle).last.trans_le hbound
    cases style with
    | withValue position =>
      have hposition : position < tokens.length := hlength
      have hmodify : span.stop ≤ (tokens.modify position (withDeclarations declarations)).length := by
        rwa [List.length_modify]
      simp only [restyle?, restyle, hstyle, Option.bind_eq_bind]
      rw [modify?_eq hposition, Option.bind_some, h.increasing.removeAll?_eq hmodify]
    | bare last hasEquals =>
      have hlast : last + 1 ≤ tokens.length := hlength
      have hgrown : (grown span (completion hasEquals declarations).length).stop ≤
          (insertAt (last + 1) (completion hasEquals declarations) tokens).length := by
        rw [length_insertAt]
        exact Nat.add_le_add_right hbound _
      simp only [restyle?, restyle, hstyle, Option.bind_eq_bind]
      split
      · exact h.increasing.removeAll?_eq hbound
      · rw [insertAt?_eq hlast, Option.bind_some]
        exact (h.completed last hasEquals declarations hstyle).1.removeAll?_eq hgrown

/-- What is before a tag stays. -/
theorem SafeScan.le_length_restyle (h : SafeScan tokens span found) {count : Nat}
    (hcount : count ≤ span.tag) (hlength : count ≤ tokens.length) (declarations : String) :
    count ≤ (restyle tokens span.tag found declarations).length := by
  have hstart (range : Range) (hmem : range ∈ found.classRanges) : count ≤ range.start := by
    have := (h.increasing.within range hmem).1
    omega
  unfold restyle
  split
  · exact le_length_removeAll hstart (by rwa [List.length_modify])
  · next last hasEquals hstyle =>
    split
    · exact le_length_removeAll hstart hlength
    · refine le_length_removeAll (fun range hmem => ?_) (by rw [length_insertAt]; omega)
      have := ((h.completed last hasEquals declarations hstyle).1.within range hmem).1
      simp only [grown] at this
      omega
  · have hremove := le_length_removeAll hstart hlength
    split
    · exact hremove
    · rw [length_insertAt, List.length_modify]
      omega

end

/-! ## Injecting does not fail -/

section

variable {sheet : Css.Stylesheet} {tokens : List Token}

theorem injectSpan?_eq {span : TagSpan} (hlt : span.tag < span.stop)
    (hbound : span.stop ≤ tokens.length) :
    injectSpan? sheet span tokens = some (injectSpan sheet span tokens) := by
  have hrestyle := (safeScan hlt hbound).restyle?_eq hlt hbound
  unfold injectSpan? injectSpan
  rw [scanAttributes?_eq hlt hbound, List.getElem?_eq_getElem (hlt.trans_le hbound)]
  exact hrestyle _

theorem le_length_injectSpan {span : TagSpan} (hlt : span.tag < span.stop)
    (hbound : span.stop ≤ tokens.length) {count : Nat} (hcount : count ≤ span.tag) :
    count ≤ (injectSpan sheet span tokens).length :=
  (safeScan hlt hbound).le_length_restyle hcount (by omega) _

/-- Tags one behind the other in a document. -/
def InDocument (tokens : List Token) (spans : List TagSpan) : Prop :=
  (spans.Pairwise fun earlier later => earlier.stop ≤ later.tag) ∧
    ∀ span ∈ spans, span.tag < span.stop ∧ span.stop ≤ tokens.length

theorem le_length_foldr {spans : List TagSpan} (h : InDocument tokens spans) {count : Nat}
    (hcount : ∀ span ∈ spans, count ≤ span.tag) (hlength : count ≤ tokens.length) :
    count ≤ (spans.foldr (injectSpan sheet) tokens).length := by
  induction spans generalizing count with
  | nil => exact hlength
  | cons span later ih =>
    obtain ⟨hbefore, hordered⟩ := List.pairwise_cons.mp h.1
    obtain ⟨⟨hlt, hbound⟩, hlater⟩ := List.forall_mem_cons.mp h.2
    have hstop := ih ⟨hordered, hlater⟩ hbefore hbound
    exact le_length_injectSpan hlt hstop (hcount span List.mem_cons_self)

theorem foldrM_injectSpan? {spans : List TagSpan} (h : InDocument tokens spans) :
    spans.foldrM (injectSpan? sheet) tokens = some (spans.foldr (injectSpan sheet) tokens) := by
  induction spans with
  | nil => rfl
  | cons span later ih =>
    obtain ⟨hbefore, hordered⟩ := List.pairwise_cons.mp h.1
    obtain ⟨⟨hlt, hbound⟩, hlater⟩ := List.forall_mem_cons.mp h.2
    -- the later tags are done by now, which leaves the tokens of this one where they were
    have hstop : span.stop ≤ (later.foldr (injectSpan sheet) tokens).length :=
      le_length_foldr ⟨hordered, hlater⟩ hbefore hbound
    rw [List.foldrM_cons, ih ⟨hordered, hlater⟩]
    exact injectSpan?_eq hlt hstop

theorem inject?_eq (sheet : Css.Stylesheet) (tokens : List Token) :
    inject? sheet tokens = some (inject sheet tokens) := by
  refine foldrM_injectSpan? ⟨pairwise_tagSpans tokens, fun span hmem => ?_⟩
  have hholds := holds_of_mem_tagSpans hmem
  exact ⟨hholds.lt, hholds.le⟩

end

end MailTemplate.Inlining
