import MailTemplate.Proofs.Inlining.ClassRange

/-! # The scan of a tag

Each step of the scan adds a part to the segments that are described, or a class attribute with the
blanks around it (`Scanning.keptStep`, `Scanning.classStep`). At the end they are all parts of the
tag (`Scanning.run`). -/

namespace MailTemplate.Inlining

open Markup

theorem getElem?_append_length (done : List Token) (part : Part) (behind : List Token) :
    (done ++ part.tokens ++ behind)[done.length]? = part.tokens.head? := by
  rw [List.append_assoc, List.getElem?_append_right (Nat.le_refl _), Nat.sub_self]
  cases hp : part.tokens with
  | nil => exact absurd hp part.tokens_ne_nil
  | cons token tokens => rfl

theorem withStyle_groupAt (found : TagAttributes) (position : Nat) (a : Attribute) :
    found.withStyle position (a.groupAt position) =
      { found with style := found.style.or (some (a.styleAt position)) } := by
  obtain ⟨classes, classRanges, style⟩ := found
  cases style with
  | some style => rfl
  | none =>
    cases a <;> simp [TagAttributes.withStyle, Attribute.groupAt, Attribute.value?,
      Attribute.styleAt, Attribute.tokens]

section

variable (done : List Token) {todo : List Token} (behind : List Token) {parts : List Part}
  (tag : Nat) (found : TagAttributes)

/-- What the scan does at an attribute. -/
theorem scanFrom_attribute {a : Attribute} (h : partsOf todo = .ofAttribute a :: parts) :
    let tokens := done ++ todo ++ behind
    let span : TagSpan := ⟨tag, done.length + todo.length⟩
    let stop := done.length + a.tokens.length
    scanFrom tokens span done.length found =
      if a.isClass then
        let stop := stop + blankCount (tokens.extract stop span.stop)
        scanFrom tokens span stop
          (found.withClass tokens span done.length stop (a.groupAt done.length).value)
      else if a.isStyle then
        scanFrom tokens span stop (found.withStyle done.length (a.groupAt done.length))
      else scanFrom tokens span stop found := by
  intro tokens span stop
  obtain ⟨rest, htodo, _, _⟩ := partsOf_eq_cons h
  have hlt : done.length < span.stop := by
    have := (Part.ofAttribute a).length_tokens_pos
    simp only [span, htodo, List.length_append]
    omega
  have hget : tokens[done.length]? = some ⟨.attributeName, a.name⟩ := by
    have := getElem?_append_length done (.ofAttribute a) (rest ++ behind)
    simp only [tokens, htodo]
    rw [← List.append_assoc, List.append_assoc, this]
    cases a <;> rfl
  have hgroup : groupAt tokens span.stop done.length = a.groupAt done.length :=
    groupAt_append h behind
  have hclass : Token.isNamed ⟨.attributeName, a.name⟩ "class" = a.isClass := rfl
  have hstyle : Token.isNamed ⟨.attributeName, a.name⟩ "style" = a.isStyle := rfl
  rw [scanFrom, if_pos hlt, hget]
  simp only [hgroup, hclass, hstyle, bne_self_eq_false, Bool.false_eq_true, if_false]
  rfl

/-- The scan passes a part that stays, and may find the `style` attribute in it. -/
theorem scanFrom_kept {part : Part} (h : partsOf todo = part :: parts)
    (hpart : part.isClass = false) :
    scanFrom (done ++ todo ++ behind) ⟨tag, done.length + todo.length⟩ done.length found =
      scanFrom (done ++ todo ++ behind) ⟨tag, done.length + todo.length⟩
        (done.length + part.tokens.length)
        { found with style := found.style.or (styleFrom done.length [part]) } := by
  cases part with
  | loose token =>
    obtain ⟨rest, rfl, _, hends⟩ := partsOf_eq_cons h
    have hget : (done ++ ((Part.loose token).tokens ++ rest) ++ behind)[done.length]? =
        some token := by
      rw [← List.append_assoc, List.append_assoc]
      exact getElem?_append_length done (.loose token) (rest ++ behind)
    rw [scanFrom, if_pos (by simp [Part.tokens]), hget]
    simp [Part.tokens, show token.kind ≠ .attributeName from hends, styleFrom]
  | ofAttribute a =>
    have ha : a.isClass = false := hpart
    rw [scanFrom_attribute done behind tag found h]
    by_cases hs : a.isStyle = true
    · simp [ha, hs, styleFrom, withStyle_groupAt, Part.tokens]
    · simp [ha, hs, styleFrom, Part.tokens]

/-- The scan takes a class attribute and the blanks behind it. -/
theorem scanFrom_class {a : Attribute} (h : partsOf todo = .ofAttribute a :: parts)
    (ha : a.isClass = true) :
    let stop := done.length + (tokensOf (.ofAttribute a :: parts.takeWhile Part.isBlank)).length
    scanFrom (done ++ todo ++ behind) ⟨tag, done.length + todo.length⟩ done.length found =
      scanFrom (done ++ todo ++ behind) ⟨tag, done.length + todo.length⟩ stop
        (found.withClass (done ++ todo ++ behind) ⟨tag, done.length + todo.length⟩ done.length stop
          (a.groupAt done.length).value) := by
  intro stop
  obtain ⟨rest, htodo, rfl, _⟩ := partsOf_eq_cons h
  have hextract : (done ++ todo ++ behind).extract (done.length + a.tokens.length)
      (done.length + todo.length) = rest := by
    rw [extract_append (by simp [htodo, Part.tokens]) (by simp), htodo, ← List.append_assoc]
    exact List.drop_left' (by simp [Part.tokens])
  have hstop : stop = done.length + a.tokens.length + blankCount rest := by
    simp only [stop, tokensOf_cons, (partsOf_blanks rest).1, blankCount, List.length_append,
      Part.tokens, Nat.add_assoc]
  rw [scanFrom_attribute done behind tag found h]
  simp only [ha, if_true, hextract, hstop]

end

/-- A scan that has passed the parts of `segments` in a tag and has `todo` before it. -/
structure Scanning (before attributes todo : List Token) (segments : List Segment)
    (found : TagAttributes) : Prop where
  scanned : Scanned before.length segments found
  split : attributes = tokensOf (partsIn segments) ++ todo
  /-- Where a blank comes next, no class attribute is right before it. -/
  next : ∀ part parts, partsOf todo = part :: parts → Tight (.kept part :: segments)

/-- What is found from behind the parts of `segments` on. -/
def resume (before attributes behind : List Token) (tag : Nat) (segments : List Segment)
    (found : TagAttributes) : TagAttributes :=
  scanFrom (before ++ attributes ++ behind) ⟨tag, before.length + attributes.length⟩
    (stopOf before.length segments) found

namespace Scanning

variable {before attributes todo : List Token} (behind : List Token) {tag : Nat}
  {segments : List Segment} {found : TagAttributes} {parts : List Part}

theorem start (before attributes : List Token) : Scanning before attributes attributes [] {} where
  scanned := ⟨rfl, rfl, rfl, fun _ hp => (nomatch hp), trivial⟩
  split := rfl
  next := fun _ _ _ => ⟨fun _ => rfl, trivial⟩

theorem document (h : Scanning before attributes todo segments found) :
    before ++ tokensOf (partsIn segments) ++ todo ++ behind = before ++ attributes ++ behind := by
  rw [h.split, List.append_assoc before]

theorem position (h : Scanning before attributes todo segments found) :
    stopOf before.length segments + todo.length = before.length + attributes.length := by
  rw [h.split, List.length_append, stopOf, Nat.add_assoc]

theorem finish (h : Scanning before attributes [] segments found) :
    resume before attributes behind tag segments found = found := by
  have hposition := h.position
  rw [List.length_nil, Nat.add_zero] at hposition
  rw [resume, scanFrom, if_neg (by simp [hposition])]

theorem keptStep (h : Scanning before attributes todo segments found) {part : Part}
    (hp : partsOf todo = part :: parts) (hpart : part.isClass = false) (tag : Nat) :
    ∃ rest found', todo = part.tokens ++ rest ∧ partsOf rest = parts ∧
      Scanning before attributes rest (.kept part :: segments) found' ∧
      resume before attributes behind tag segments found =
        resume before attributes behind tag (.kept part :: segments) found' := by
  obtain ⟨rest, htodo, hrest, _⟩ := partsOf_eq_cons hp
  have hlength : (before ++ tokensOf (partsIn segments)).length = stopOf before.length segments := by
    rw [List.length_append, stopOf]
  have hstep := scanFrom_kept (before ++ tokensOf (partsIn segments)) behind tag found hp hpart
  rw [h.document, hlength, h.position, ← stopOf_kept] at hstep
  refine ⟨rest, _, htodo, hrest, ⟨h.scanned.kept hpart (h.next _ _ hp) rfl, ?_, ?_⟩, hstep⟩
  · simp [h.split, htodo, partsIn, Segment.parts]
  · intro next _ _
    exact (h.next _ _ hp).kept next

theorem classStep (h : Scanning before attributes todo segments found)
    (htag : before.length = tag + 1) {a : Attribute}
    (hp : partsOf todo = .ofAttribute a :: parts) (ha : a.isClass = true) :
    ∃ rest left found', rest.length < todo.length ∧ partsOf rest = parts.dropWhile Part.isBlank ∧
      Scanning before attributes rest left found' ∧
      resume before attributes behind tag segments found =
        resume before attributes behind tag left found' ∧
      partsIn left = partsIn segments ++ .ofAttribute a :: parts.takeWhile Part.isBlank ∧
      keptIn left =
        if rest = [] then (keptIn segments).rdropWhile Part.isBlank else keptIn segments := by
  obtain ⟨behindName, htodo, hparts, _⟩ := partsOf_eq_cons hp
  obtain ⟨htake, hdrop⟩ := partsOf_blanks behindName
  rw [hparts] at htake hdrop
  have hblanks : ∀ part ∈ parts.takeWhile Part.isBlank, part.isBlank = true :=
    fun part hmem => List.mem_takeWhile_imp hmem
  have hsplit : attributes = tokensOf (partsIn segments) ++
      tokensOf (.ofAttribute a :: parts.takeWhile Part.isBlank) ++
      behindName.dropWhile Token.isBlank := by
    rw [h.split, htodo, tokensOf_cons, htake, List.append_assoc, List.append_assoc,
      List.takeWhile_append_dropWhile]
  obtain ⟨left, hleft, hleftParts, hleftKept⟩ :=
    h.scanned.withClass behind htag ha hblanks hsplit
  have hstop : stopOf before.length left = stopOf before.length segments +
      (tokensOf (.ofAttribute a :: parts.takeWhile Part.isBlank)).length := by
    rw [stopOf, hleftParts, tokensOf_append, List.length_append, stopOf, Nat.add_assoc]
  have hlength : (before ++ tokensOf (partsIn segments)).length = stopOf before.length segments := by
    rw [List.length_append, stopOf]
  have hstep := scanFrom_class (before ++ tokensOf (partsIn segments)) behind tag found hp ha
  rw [h.document, hlength, h.position, ← hstop] at hstep
  rw [← hstop] at hleft
  refine ⟨_, left, _, ?_, hdrop.symm, ⟨hleft, ?_, ?_⟩, hstep, hleftParts, hleftKept⟩
  · have hle := (List.dropWhile_sublist Token.isBlank (l := behindName)).length_le
    have hpos := (Part.ofAttribute a).length_tokens_pos
    rw [htodo, List.length_append]
    omega
  · rw [hleftParts, tokensOf_append]
    exact hsplit
  · -- the blanks are gone, so what comes next is none
    intro next more hnext
    have hhead := List.head?_dropWhile_not Part.isBlank parts
    rw [hdrop, hnext] at hhead
    exact hleft.tight.kept_of_not_blank hhead

/-- A tag is scanned part by part: what is found describes segments with all the parts of the tag,
and the parts in them that stay are those of `strip`. -/
theorem run (h : Scanning before attributes todo segments found)
    (htag : before.length = tag + 1) :
    ∃ after, Scanned before.length after (resume before attributes behind tag segments found) ∧
      partsIn after = partsIn segments ++ partsOf todo ∧
      keptIn after = stripFrom (keptIn segments) (partsOf todo) := by
  induction hlength : todo.length using Nat.strong_induction_on
    generalizing todo segments found with
  | h length ih =>
    subst hlength
    cases hp : partsOf todo with
    | nil =>
      obtain rfl := partsOf_eq_nil.mp hp
      rw [h.finish]
      exact ⟨segments, h.scanned, (List.append_nil _).symm, by rw [stripFrom]⟩
    | cons part parts =>
      by_cases hclass : part.isClass = true
      · cases part with
        | loose token => cases hclass
        | ofAttribute a =>
          obtain ⟨rest, left, found', hlt, hrest, hnext, hresume, hparts, hkept⟩ :=
            h.classStep behind htag hp hclass
          obtain ⟨after, hafter, hafterParts, hafterKept⟩ := ih _ hlt hnext rfl
          rw [hresume]
          refine ⟨after, hafter, ?_, ?_⟩
          · rw [hafterParts, hparts, hrest, List.append_assoc, List.cons_append,
              List.takeWhile_append_dropWhile]
          · rw [hafterKept, hkept, stripFrom, if_pos hclass, ← hrest]
            by_cases hend : rest = []
            · rw [if_pos hend, hend, partsOf, if_pos rfl, stripFrom]
            · rw [if_neg hend, if_neg (mt partsOf_eq_nil.mp hend)]
      · obtain ⟨rest, found', htodo, hrest, hnext, hresume⟩ :=
          h.keptStep behind hp (by simpa using hclass) tag
        have hlt : rest.length < todo.length := by
          have hpos := part.length_tokens_pos
          rw [htodo, List.length_append]
          omega
        obtain ⟨after, hafter, hparts, hkept⟩ := ih _ hlt hnext rfl
        rw [hresume]
        refine ⟨after, hafter, ?_, ?_⟩
        · rw [hparts, hrest, partsIn, Segment.parts, List.append_assoc, List.singleton_append]
        · rw [hkept, hrest, keptIn, stripFrom, if_neg hclass]

end Scanning

end MailTemplate.Inlining
