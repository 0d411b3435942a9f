import MailTemplate.Proofs.Inlining.Blocks
import MailTemplate.Proofs.Inlining.Entries
import MailTemplate.Proofs.Markup.Grouped

/-! # Tags of grouped streams

In a grouped stream only tag continuations stand between the attributes of a tag
(`regular_partsOf`), and parts of that form are what is read back from their tokens
(`partsOf_tokensOf`). Taking style blocks out of a stream and injecting into it leave it grouped. -/

namespace MailTemplate.Inlining

open Markup

/-! ## Streams without style blocks -/

/-- Only tag continuations stand between the attributes. -/
def Regular (parts : List Part) : Prop :=
  ∀ token, .loose token ∈ parts → token.kind = .tagContinuation

theorem Regular.tail {part : Part} {parts : List Part} (h : Regular (part :: parts)) :
    Regular parts :=
  fun token hmem => h token (List.mem_cons_of_mem _ hmem)

theorem Regular.cons_attribute {parts : List Part} (h : Regular parts) (a : Attribute) :
    Regular (.ofAttribute a :: parts) := by
  intro token hmem
  rcases List.mem_cons.mp hmem with hmem | hmem
  · cases hmem
  · exact h token hmem

/-- The head of a list continues no attribute. -/
def StartsPart (tokens : List Token) : Prop :=
  tokens.head?.map Token.kind ≠ some .attributeEquals ∧
    tokens.head?.map Token.kind ≠ some .attributeValue

theorem startsPart_of_groupedAfter {before : Option Kind} {tokens : List Token}
    (h : GroupedAfter before tokens)
    (hsign : before = some .attributeName → tokens.head?.map Token.kind ≠ some .attributeEquals)
    (hvalue : before = some .attributeEquals →
      tokens.head?.map Token.kind ≠ some .attributeValue) : StartsPart tokens := by
  cases tokens with
  | nil => simp [StartsPart]
  | cons token tokens =>
    refine ⟨fun hk => hsign (h.1 ?_) hk, fun hk => hvalue (h.2.1 ?_) hk⟩
    all_goals simpa using hk

theorem regular_partsOf {before : Option Kind} {tokens : List Token}
    (h : GroupedAfter before tokens) (hstart : StartsPart tokens)
    (hattributes : ∀ token ∈ tokens, token.isAttribute = true) : Regular (partsOf tokens) := by
  induction hparts : partsOf tokens generalizing before tokens with
  | nil => simp [Regular]
  | cons part parts ih =>
    obtain ⟨rest, rfl, hrest, hends⟩ := partsOf_eq_cons hparts
    have hmem : ∀ token ∈ rest, token.isAttribute = true :=
      fun token ht => hattributes token (List.mem_append_right _ ht)
    rcases part with (name | ⟨name, sign⟩ | ⟨name, sign, value⟩) | token
    · have hgrouped : GroupedAfter (some .attributeName) rest := h.2.2
      refine (ih hgrouped (startsPart_of_groupedAfter hgrouped (fun _ => hends) ?_) hmem
        hrest).cons_attribute _
      rintro ⟨⟩
    · have hgrouped : GroupedAfter (some .attributeEquals) rest := h.2.2.2.2
      refine (ih hgrouped (startsPart_of_groupedAfter hgrouped ?_ fun _ => hends) hmem
        hrest).cons_attribute _
      rintro ⟨⟩
    · have hgrouped : GroupedAfter (some .attributeValue) rest := h.2.2.2.2.2.2
      refine (ih hgrouped (startsPart_of_groupedAfter hgrouped ?_ ?_) hmem hrest).cons_attribute _
      all_goals rintro ⟨⟩
    · have hkind : token.kind = .tagContinuation := by
        have hattribute : token.kind.isAttribute = true :=
          hattributes token List.mem_cons_self
        have hname : token.kind ≠ .attributeName := hends
        have hsign : token.kind ≠ .attributeEquals := fun hk => hstart.1 (by simp [Part.tokens, hk])
        have hvalue : token.kind ≠ .attributeValue := fun hk => hstart.2 (by simp [Part.tokens, hk])
        cases hk : token.kind <;> simp_all [Kind.isAttribute]
      have hgrouped : GroupedAfter (some token.kind) rest := h.2.2
      have hregular := ih hgrouped (startsPart_of_groupedAfter hgrouped (by simp [hkind])
        (by simp [hkind])) hmem hrest
      intro other hother
      rcases List.mem_cons.mp hother with hother | hother
      · cases hother
        exact hkind
      · exact hregular other hother

theorem startsPart_tokensOf {parts : List Part} (h : Regular parts) :
    StartsPart (tokensOf parts) := by
  cases parts with
  | nil => simp [StartsPart]
  | cons part parts =>
    cases part with
    | ofAttribute a => cases a <;> simp [StartsPart, Part.tokens, Attribute.tokens]
    | loose token => simp [StartsPart, Part.tokens, h token List.mem_cons_self]

theorem partsOf_tokensOf {parts : List Part} (h : Regular parts) :
    partsOf (tokensOf parts) = parts := by
  induction parts with
  | nil => rfl
  | cons part parts ih =>
    have hstart := startsPart_tokensOf h.tail
    have hends : part.EndsBefore (tokensOf parts) := by
      rcases part with (name | ⟨name, sign⟩ | ⟨name, sign, value⟩) | token
      · exact hstart.1
      · exact hstart.2
      · trivial
      · simp [Part.EndsBefore, h token List.mem_cons_self]
    rw [tokensOf_cons, partsOf_append hends, ih h.tail]

theorem groupedAfter_tokensOf {parts : List Part} (h : Regular parts) (before : Option Kind) :
    GroupedAfter before (tokensOf parts) := by
  induction parts generalizing before with
  | nil => trivial
  | cons part parts ih =>
    have hrest := ih h.tail
    rw [tokensOf_cons]
    rcases part with (name | ⟨name, sign⟩ | ⟨name, sign, value⟩) | token
    · simpa [Part.tokens, Attribute.tokens, GroupedAfter] using hrest _
    · simpa [Part.tokens, Attribute.tokens, GroupedAfter] using hrest _
    · simpa [Part.tokens, Attribute.tokens, GroupedAfter] using hrest _
    · have hkind := h token List.mem_cons_self
      rw [Part.tokens, List.singleton_append, groupedAfter_cons _ (by simp [hkind])
        (by simp [hkind])]
      exact hrest _

theorem Regular.restyledParts {parts : List Part} (h : Regular parts) (declarations : String) :
    Regular (restyledParts declarations (strip parts)) := by
  intro token hmem
  rcases loose_mem_restyledParts hmem with hmem | rfl
  · exact h token hmem
  · rfl

/-! ## Entries -/

theorem groupedAfter_iff_entries (before : Option Kind) (tokens : List Token) :
    GroupedAfter before tokens ↔
      GroupedAfter before (attributesOf tokens) ∧
        ∀ entry ∈ entries tokens, GroupedAfter (some entry.head.kind) entry.attributes := by
  induction tokens generalizing before with
  | nil => simp [GroupedAfter, attributesOf, entries]
  | cons token tokens ih =>
    by_cases h : token.isAttribute = true
    · rw [GroupedAfter, ih, attributesOf_cons_of_pos h, entries, if_pos h, GroupedAfter, and_assoc,
        and_assoc]
    · have hsign : token.kind ≠ .attributeEquals := by
        rintro hk
        simp [Token.isAttribute, hk, Kind.isAttribute] at h
      have hvalue : token.kind ≠ .attributeValue := by
        rintro hk
        simp [Token.isAttribute, hk, Kind.isAttribute] at h
      rw [groupedAfter_cons before hsign hvalue, ih, attributesOf_cons_of_neg h, entries, if_neg h,
        List.forall_mem_cons]
      simp [GroupedAfter]

theorem regular_of_mem_entries {tokens : List Token} (h : Grouped tokens) {entry : Entry}
    (hmem : entry ∈ entries tokens) : Regular (partsOf entry.attributes) := by
  have hwell := wellFormed_of_mem_entries hmem
  have hgrouped := ((groupedAfter_iff_entries none tokens).mp h).2 entry hmem
  have hhead := hwell.head
  refine regular_partsOf hgrouped (startsPart_of_groupedAfter hgrouped ?_ ?_) hwell.attributes
  all_goals
    intro hk
    simp [Token.isAttribute, Option.some.inj hk, Kind.isAttribute] at hhead

theorem grouped_inject (sheet : Css.Stylesheet) {tokens : List Token} (h : Grouped tokens) :
    Grouped (inject sheet tokens) := by
  have hbefore := (groupedAfter_iff_entries none tokens).mp h
  refine (groupedAfter_iff_entries none _).mpr ⟨?_, fun entry hmem => ?_⟩
  · rw [attributesOf_inject]
    exact hbefore.1
  · rw [entries_inject] at hmem
    obtain ⟨entry, hentry, rfl⟩ := List.mem_map.mp hmem
    unfold restyledEntry
    split
    · exact groupedAfter_tokensOf ((regular_of_mem_entries h hentry).restyledParts _) _
    · exact hbefore.2 entry hentry

end MailTemplate.Inlining
