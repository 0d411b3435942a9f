import MailTemplate.Proofs.Inlining.Segments

/-! # What a scan has found

The scan of a tag moves over it by position. What it has found describes a list of segments
(`Scanned`), and which parts of a tag are kept in them in the end is a function of the parts alone
(`strip`). -/

namespace MailTemplate.Inlining

open Markup

/-- The parts that stay of a tag, of which `kept` stand before `parts`. A class attribute goes with
the blanks behind it; where nothing else is behind it, the blanks before it go too. -/
def stripFrom (kept : List Part) : List Part → List Part
  | [] => kept
  | part :: parts =>
    if part.isClass then
      if parts.dropWhile Part.isBlank = [] then kept.rdropWhile Part.isBlank
      else stripFrom kept (parts.dropWhile Part.isBlank)
    else stripFrom (kept ++ [part]) parts
termination_by parts => parts.length
decreasing_by
  · exact Nat.lt_succ_of_le (List.dropWhile_sublist _).length_le
  · simp

def strip (parts : List Part) : List Part :=
  stripFrom [] parts

/-! ## Groups and blanks -/

theorem hasKindAt_append (before todo behind : List Token) (position : Nat) (kind : Kind) :
    hasKindAt (before ++ todo ++ behind) (before.length + todo.length) (before.length + position)
        kind = todo[position]?.any (·.kind == kind) := by
  unfold hasKindAt
  by_cases h : position < todo.length
  · have hget : (before ++ todo ++ behind)[before.length + position]? = todo[position]? := by
      rw [List.append_assoc, List.getElem?_append_right (by omega),
        List.getElem?_append_left (by omega)]
      congr 1
      omega
    rw [hget]
    simp [h]
  · simp [h]

/-- The group that the scan reads at an attribute. -/
def Attribute.groupAt (position : Nat) (a : Attribute) : Group where
  value := a.value?.map fun _ => position + 2
  stop := position + a.tokens.length

theorem groupAt_append {before todo : List Token} {a : Attribute} {parts : List Part}
    (h : partsOf todo = .ofAttribute a :: parts) (behind : List Token) :
    groupAt (before ++ todo ++ behind) (before.length + todo.length) before.length =
      a.groupAt before.length := by
  obtain ⟨rest, htodo, _, hends⟩ := partsOf_eq_cons h
  have hkind := hasKindAt_append before todo behind
  unfold groupAt
  rw [hkind 1, hkind 2, htodo]
  cases a with
  | bare name =>
    have hrest : rest[0]?.any (·.kind == .attributeEquals) = false := by
      cases rest <;> simp_all [Part.EndsBefore]
    simp [Part.tokens, Attribute.tokens, Attribute.groupAt, Attribute.value?, hrest]
  | unassigned name sign =>
    have hrest : rest[0]?.any (·.kind == .attributeValue) = false := by
      cases rest <;> simp_all [Part.EndsBefore]
    simp [Part.tokens, Attribute.tokens, Attribute.groupAt, Attribute.value?, hrest]
  | assigned name sign value =>
    simp [Part.tokens, Attribute.tokens, Attribute.groupAt, Attribute.value?]

theorem partsOf_blank {token : Token} (h : token.isBlank = true) (rest : List Token) :
    partsOf (token :: rest) = .loose token :: partsOf rest := by
  have hkind : token.kind = .tagContinuation := by
    simp only [Token.isBlank, Bool.and_eq_true, beq_iff_eq] at h
    exact h.1
  have hends : (Part.loose token).EndsBefore rest := by simp [Part.EndsBefore, hkind]
  exact partsOf_append hends

/-- The blanks at the head of a tag, as tokens and as parts. -/
theorem partsOf_blanks (tokens : List Token) :
    tokensOf ((partsOf tokens).takeWhile Part.isBlank) = tokens.takeWhile Token.isBlank ∧
      (partsOf tokens).dropWhile Part.isBlank = partsOf (tokens.dropWhile Token.isBlank) := by
  induction tokens with
  | nil => simp [partsOf]
  | cons token rest ih =>
    by_cases h : token.isBlank = true
    · have hpart : (Part.loose token).isBlank = true := h
      rw [partsOf_blank h]
      simp [hpart, h, ih, Part.tokens]
    · cases hp : partsOf (token :: rest) with
      | nil => simpa [hp] using tokensOf_partsOf (token :: rest)
      | cons part parts =>
        obtain ⟨_, htokens, _, _⟩ := partsOf_eq_cons hp
        have hpart : part.isBlank = false := by
          cases part with
          | ofAttribute a => rfl
          | loose token' =>
            obtain rfl : token = token' := (List.cons.inj htokens).1
            simpa [Part.isBlank] using h
        simp [h, hpart, hp]

/-! ## The state of the scan -/

/-- Blanks are kept behind parts that are kept: the class attributes before them have taken all
that follow directly. -/
def Tight : List Segment → Prop
  | [] => True
  | segment :: earlier =>
    (segment.isKeptBlank = true → earlier.head?.any Segment.isRemoved = false) ∧ Tight earlier

theorem Tight.kept {part : Part} {segments : List Segment} (h : Tight (.kept part :: segments))
    (next : Part) : Tight (.kept next :: .kept part :: segments) :=
  ⟨fun _ => rfl, h⟩

theorem Tight.kept_of_not_blank {segments : List Segment} (h : Tight segments) {part : Part}
    (hpart : part.isBlank = false) : Tight (.kept part :: segments) := by
  refine ⟨fun hb => ?_, h⟩
  rw [Segment.isKeptBlank, hpart] at hb
  cases hb

theorem Tight.removed {segments : List Segment} (h : Tight segments) (parts : List Part) :
    Tight (.removed parts :: segments) :=
  ⟨fun hb => (nomatch hb), h⟩

/-- What the scan has found in the parts of `segments`. -/
structure Scanned (start : Nat) (segments : List Segment) (found : TagAttributes) : Prop where
  classes : found.classes = (partsIn segments).flatMap Part.classes
  classRanges : found.classRanges = rangesIn start segments
  style : found.style = styleFrom start (partsIn segments)
  sparesStyle : SparesStyle segments
  tight : Tight segments

/-- A part that stays. -/
theorem Scanned.kept {start : Nat} {segments : List Segment} {found : TagAttributes}
    (h : Scanned start segments found) {part : Part} (hpart : part.isClass = false)
    (htight : Tight (.kept part :: segments)) {style : Option StyleAttribute}
    (hstyle : style = found.style.or (styleFrom (stopOf start segments) [part])) :
    Scanned start (.kept part :: segments) { found with style := style } where
  classes := by simp [partsIn, Segment.parts, h.classes, Part.classes_eq_nil hpart]
  classRanges := h.classRanges
  style := by
    show style = _
    rw [hstyle, h.style, partsIn, Segment.parts, styleFrom_append, stopOf]
  sparesStyle := fun parts hp => h.sparesStyle parts (by simpa using hp)
  tight := htight

end MailTemplate.Inlining
