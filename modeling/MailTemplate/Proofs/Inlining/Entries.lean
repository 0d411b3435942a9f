import MailTemplate.Proofs.Inlining.Tagwise

/-! # The outline of a document

A document is a list of entries, one for each tag and each content, with the attribute tokens
behind it. Injecting keeps the entries in their order and changes each tag on its own
(`entries_inject`); what stands before the first entry is left alone (`attributesOf_inject`). -/

namespace MailTemplate.Inlining

open Markup

/-- A tag name or content with the attribute tokens behind it. Behind content such tokens belong
to no tag. -/
structure Entry where
  head : Token
  attributes : List Token
  deriving DecidableEq, Inhabited

namespace Entry

def tokens (entry : Entry) : List Token :=
  entry.head :: entry.attributes

structure WellFormed (entry : Entry) : Prop where
  head : entry.head.isAttribute = false
  attributes : ∀ token ∈ entry.attributes, token.isAttribute = true

end Entry

def entries : List Token → List Entry
  | [] => []
  | token :: tokens =>
    if token.isAttribute then entries tokens
    else ⟨token, attributesOf tokens⟩ :: entries tokens

theorem isAttribute_of_mem_attributesOf {tokens : List Token} {token : Token}
    (h : token ∈ attributesOf tokens) : token.isAttribute = true :=
  List.mem_takeWhile_imp h

theorem wellFormed_of_mem_entries {tokens : List Token} {entry : Entry}
    (h : entry ∈ entries tokens) : entry.WellFormed := by
  induction tokens with
  | nil => simp [entries] at h
  | cons token tokens ih =>
    rw [entries] at h
    split at h
    · exact ih h
    · next hhead =>
      rcases List.mem_cons.mp h with rfl | h
      · exact ⟨by simpa using hhead, fun _ hmem => isAttribute_of_mem_attributesOf hmem⟩
      · exact ih h

/-- A document is the tokens before its first entry and those of its entries. -/
theorem attributesOf_append_entries (tokens : List Token) :
    attributesOf tokens ++ (entries tokens).flatMap Entry.tokens = tokens := by
  induction tokens with
  | nil => rfl
  | cons token tokens ih =>
    by_cases h : token.isAttribute = true
    · rw [entries, if_pos h, attributesOf_cons_of_pos h, List.cons_append, ih]
    · rw [entries, if_neg h, attributesOf_cons_of_neg h, List.flatMap_cons, Entry.tokens,
        List.nil_append, List.cons_append, ih]

theorem entries_append {attributes : List Token}
    (h : ∀ token ∈ attributes, token.isAttribute = true) (tokens : List Token) :
    entries (attributes ++ tokens) = entries tokens := by
  induction attributes with
  | nil => rfl
  | cons token attributes ih =>
    rw [List.cons_append, entries, if_pos (h token List.mem_cons_self)]
    exact ih fun t ht => h t (List.mem_cons_of_mem _ ht)

/-- Behind the attribute tokens of an entry comes the head of the next one, or nothing. -/
theorem attributesOf_entries {attributes : List Token}
    (h : ∀ token ∈ attributes, token.isAttribute = true) {list : List Entry}
    (hlist : ∀ entry ∈ list, entry.WellFormed) :
    attributesOf (attributes ++ list.flatMap Entry.tokens) = attributes := by
  rw [attributesOf, List.takeWhile_append_of_pos h]
  cases list with
  | nil => simp
  | cons entry list =>
    have hhead := (hlist entry List.mem_cons_self).head
    simp [Entry.tokens, hhead]

theorem entries_flatMap {list : List Entry} (h : ∀ entry ∈ list, entry.WellFormed) :
    entries (list.flatMap Entry.tokens) = list := by
  induction list with
  | nil => rfl
  | cons entry list ih =>
    have hentry := h entry List.mem_cons_self
    have hlist := fun e he => h e (List.mem_cons_of_mem _ he)
    rw [List.flatMap_cons, Entry.tokens, List.cons_append, entries, hentry.head,
      if_neg (by simp), attributesOf_entries hentry.attributes hlist,
      entries_append hentry.attributes, ih hlist]

/-! ## Injecting, entry by entry -/

/-- An entry after injecting; only tags are changed. -/
def restyledEntry (sheet : Css.Stylesheet) (entry : Entry) : Entry :=
  if entry.head.isTag then
    let parts := partsOf entry.attributes
    let declarations := declarationsOfTag sheet entry.head (parts.flatMap Part.classes)
    ⟨restyledName declarations parts entry.head,
      tokensOf (restyledParts declarations (strip parts))⟩
  else entry

theorem tokens_restyledEntry (sheet : Css.Stylesheet) (entry : Entry) :
    (restyledEntry sheet entry).tokens =
      if entry.head.isTag then restyledTag sheet entry.head entry.attributes else entry.tokens := by
  unfold restyledEntry
  split <;> rfl

theorem tagwise_eq_entries (sheet : Css.Stylesheet) (tokens : List Token) :
    tagwise (restyledTag sheet) tokens =
      attributesOf tokens ++ ((entries tokens).map (restyledEntry sheet)).flatMap Entry.tokens := by
  induction tokens with
  | nil => simp [tagwise, attributesOf, entries]
  | cons token tokens ih =>
    by_cases h : token.isAttribute = true
    · have htag : token.isTag = false := isTag_eq_false_of_isAttribute h
      rw [tagwise, if_neg (by simp [htag]), ih, entries, if_pos h,
        attributesOf_cons_of_pos h, List.cons_append]
    · have hbehind : tagwise (restyledTag sheet) (tokens.dropWhile Token.isAttribute) =
          ((entries tokens).map (restyledEntry sheet)).flatMap Entry.tokens := by
        rw [tagwise_attributes] at ih
        exact List.append_cancel_left ih
      rw [entries, if_neg h, attributesOf_cons_of_neg h, List.nil_append, List.map_cons,
        List.flatMap_cons, tokens_restyledEntry, tagwise]
      by_cases htag : token.isTag = true
      · rw [if_pos htag, if_pos htag, hbehind]
      · rw [if_neg htag, if_neg htag, ih, Entry.tokens, List.cons_append]

/-! What is left of a tag has no loose tokens but those it had and the blank of a new attribute. -/

theorem stripFrom_sublist (kept parts : List Part) :
    (stripFrom kept parts).Sublist (kept ++ parts) := by
  fun_induction stripFrom kept parts with
  | case1 kept => simp
  | case2 kept part parts hclass hend =>
    exact (List.rdropWhile_prefix _ _).sublist.trans (List.sublist_append_left _ _)
  | case3 kept part parts hclass hend ih =>
    exact ih.trans (.append (.refl _) ((List.dropWhile_sublist _).trans (List.sublist_cons_self _ _)))
  | case4 kept part parts hclass ih => simpa using ih

theorem loose_mem_completeFirst {declarations : String} {parts : List Part} {token : Token}
    (h : .loose token ∈ completeFirst declarations parts) : .loose token ∈ parts := by
  induction parts with
  | nil => simp [completeFirst] at h
  | cons part parts ih =>
    cases part with
    | ofAttribute a =>
      rw [completeFirst] at h
      split at h
      · simpa using h
      · simpa using ih (by simpa using h)
    | loose other =>
      rcases List.mem_cons.mp h with h | h
      · exact h ▸ List.mem_cons_self
      · exact List.mem_cons_of_mem _ (ih h)

theorem loose_mem_restyledParts {declarations : String} {parts : List Part} {token : Token}
    (h : .loose token ∈ restyledParts declarations (strip parts)) :
    .loose token ∈ parts ∨ token = ⟨.tagContinuation, " "⟩ := by
  have hstrip : ∀ part ∈ strip parts, part ∈ parts := fun _ hp => (stripFrom_sublist [] parts).mem hp
  unfold restyledParts at h
  split at h
  · exact .inl (hstrip _ (loose_mem_completeFirst h))
  · split at h
    · exact .inl (hstrip _ h)
    · rcases List.mem_cons.mp h with h | h
      · cases h
      · rcases List.mem_cons.mp h with h | h
        · exact .inr (Part.loose.inj h)
        · exact .inl (hstrip _ h)

theorem Attribute.isAttribute_of_mem_tokens {a : Attribute} {token : Token}
    (h : token ∈ a.tokens) : token.isAttribute = true := by
  cases a <;> simp only [Attribute.tokens, List.mem_cons, List.not_mem_nil, or_false] at h
  · rw [h]
    rfl
  · obtain rfl | rfl := h <;> rfl
  · obtain rfl | rfl | rfl := h <;> rfl

theorem kind_restyledName (declarations : String) (parts : List Part) (tag : Token) :
    (restyledName declarations parts tag).kind = tag.kind := by
  unfold restyledName separated
  split
  · rfl
  · split
    · rfl
    · split <;> rfl

theorem restyledEntry_wellFormed (sheet : Css.Stylesheet) {entry : Entry}
    (h : entry.WellFormed) : (restyledEntry sheet entry).WellFormed := by
  unfold restyledEntry
  split
  · refine ⟨?_, fun token hmem => ?_⟩
    · rw [Token.isAttribute, kind_restyledName]
      exact h.head
    · obtain ⟨part, hpart, htoken⟩ := List.mem_flatMap.mp hmem
      cases part with
      | ofAttribute a => exact Attribute.isAttribute_of_mem_tokens htoken
      | loose other =>
        obtain rfl : token = other := by simpa [Part.tokens] using htoken
        rcases loose_mem_restyledParts hpart with hpart | rfl
        · refine h.attributes token ?_
          rw [← tokensOf_partsOf entry.attributes]
          exact List.mem_flatMap.mpr ⟨_, hpart, List.mem_singleton_self _⟩
        · rfl
  · exact h

theorem entries_inject (sheet : Css.Stylesheet) (tokens : List Token) :
    entries (inject sheet tokens) = (entries tokens).map (restyledEntry sheet) := by
  rw [inject_eq_tagwise, tagwise_eq_entries, entries_append fun _ h => isAttribute_of_mem_attributesOf h,
    entries_flatMap]
  intro entry h
  obtain ⟨before, hbefore, rfl⟩ := List.mem_map.mp h
  exact restyledEntry_wellFormed sheet (wellFormed_of_mem_entries hbefore)

theorem attributesOf_inject (sheet : Css.Stylesheet) (tokens : List Token) :
    attributesOf (inject sheet tokens) = attributesOf tokens := by
  rw [inject_eq_tagwise, tagwise_eq_entries]
  refine attributesOf_entries (fun _ h => isAttribute_of_mem_attributesOf h) fun entry h => ?_
  obtain ⟨before, hbefore, rfl⟩ := List.mem_map.mp h
  exact restyledEntry_wellFormed sheet (wellFormed_of_mem_entries hbefore)

end MailTemplate.Inlining
