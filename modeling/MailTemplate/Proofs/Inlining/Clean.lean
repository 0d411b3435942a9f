import MailTemplate.Proofs.Inlining.Restyled
import MailTemplate.Proofs.Text.Trim

/-! # Documents with nothing to inline

A clean document has no style block and no `class` attribute in a tag. Inlining makes every document
clean, also one that no text has, and leaves exactly the clean ones as they are
(`inlineStyles_clean`). -/

namespace MailTemplate.Inlining

open Markup

def isClassName (token : Token) : Bool :=
  isOf .attributeName "class" token

theorem isClassName_eq (token : Token) :
    isClassName token = (token.kind == .attributeName && token.isNamed "class") := rfl

structure Clean (tokens : List Token) : Prop where
  noBlock : ∀ token ∈ tokens, isOf .tagOpen "style" token = false
  noClass : ∀ span ∈ tagSpans tokens, ∀ position, span.tag < position → position < span.stop →
    ∀ token, tokens[position]? = some token → isClassName token = false

/-- An entry of a clean document. -/
structure Entry.Clean (entry : Entry) : Prop where
  noBlock : isOf .tagOpen "style" entry.head = false
  noClass : entry.head.isTag = true → ∀ token ∈ entry.attributes, isClassName token = false

/-! ## Entries instead of positions -/

/-- The attribute tokens of a tag, by position. -/
theorem forall_span {P : Token → Prop} (before : List Token) (tag : Token) (tokens : List Token) :
    (∀ position, before.length < position →
        position < before.length + 1 + (attributesOf tokens).length →
        ∀ token, (before ++ tag :: tokens)[position]? = some token → P token) ↔
      ∀ token ∈ attributesOf tokens, P token := by
  have hget (n : Nat) (hn : n < (attributesOf tokens).length) :
      (before ++ tag :: tokens)[before.length + 1 + n]? = (attributesOf tokens)[n]? := by
    rw [List.getElem?_append_right (by omega),
      show before.length + 1 + n - before.length = n + 1 by omega, List.getElem?_cons_succ]
    conv_lhs => rw [← List.takeWhile_append_dropWhile (p := Token.isAttribute) (l := tokens)]
    exact List.getElem?_append_left hn
  constructor
  · intro h token hmem
    obtain ⟨n, hn, rfl⟩ := List.mem_iff_getElem.mp hmem
    refine h (before.length + 1 + n) (by omega) (by omega) _ ?_
    rw [hget n hn, List.getElem?_eq_getElem hn]
  · intro h position hfirst hlast token htoken
    obtain ⟨n, rfl⟩ := Nat.exists_eq_add_of_le (show before.length + 1 ≤ position by omega)
    rw [hget n (by omega)] at htoken
    exact h token (List.mem_of_getElem? htoken)

theorem forall_tagSpansFrom {P : Token → Prop} (before tokens : List Token) :
    (∀ span ∈ tagSpansFrom before.length tokens, ∀ position, span.tag < position →
        position < span.stop → ∀ token, (before ++ tokens)[position]? = some token → P token) ↔
      ∀ entry ∈ entries tokens, entry.head.isTag = true → ∀ token ∈ entry.attributes, P token := by
  induction tokens generalizing before with
  | nil => simp [tagSpansFrom, entries]
  | cons token tokens ih =>
    have hrest := ih (before ++ [token])
    simp only [List.length_append, List.length_singleton, List.append_assoc,
      List.singleton_append] at hrest
    by_cases htag : token.isTag = true
    · have hattribute : token.isAttribute = false := Kind.isAttribute_of_isTag htag
      rw [tagSpansFrom, if_pos htag, entries, hattribute, if_neg Bool.false_ne_true,
        List.forall_mem_cons, List.forall_mem_cons, hrest, forall_span]
      simp [htag]
    · rw [tagSpansFrom, if_neg htag, hrest, entries]
      split
      · rfl
      · simp [htag]

theorem forall_not_opens (tokens : List Token) :
    (∀ token ∈ tokens, isOf .tagOpen "style" token = false) ↔
      ∀ entry ∈ entries tokens, isOf .tagOpen "style" entry.head = false := by
  induction tokens with
  | nil => simp [entries]
  | cons token tokens ih =>
    rw [List.forall_mem_cons, ih, entries]
    split
    · next hattribute =>
      simp [not_opens_of_isAttribute hattribute]
    · rw [List.forall_mem_cons]

theorem clean_iff_entries (tokens : List Token) :
    Clean tokens ↔ ∀ entry ∈ entries tokens, entry.Clean := by
  have hspans := forall_tagSpansFrom (P := fun token => isClassName token = false) [] tokens
  constructor
  · intro h entry hmem
    exact ⟨(forall_not_opens tokens).mp h.noBlock entry hmem, hspans.mp h.noClass entry hmem⟩
  · intro h
    exact ⟨(forall_not_opens tokens).mpr fun entry hmem => (h entry hmem).noBlock,
      hspans.mpr fun entry hmem => (h entry hmem).noClass⟩

/-! ## Class attributes of a tag -/

/-- A name is always read as that of an attribute. -/
theorem kind_of_loose_mem_partsOf {tokens : List Token} {token : Token}
    (h : .loose token ∈ partsOf tokens) : token.kind ≠ .attributeName := by
  induction hparts : partsOf tokens generalizing tokens with
  | nil => simp [hparts] at h
  | cons part parts ih =>
    obtain ⟨rest, -, hrest, hends⟩ := partsOf_eq_cons hparts
    rw [hparts] at h
    rcases List.mem_cons.mp h with rfl | h
    · exact hends
    · exact ih (hrest ▸ h) hrest

theorem Attribute.eq_name_of_mem_tokens {a : Attribute} {token : Token} (h : token ∈ a.tokens)
    (hkind : token.kind = .attributeName) : token = ⟨.attributeName, a.name⟩ := by
  cases a <;> simp only [tokens, List.mem_cons, List.not_mem_nil, or_false] at h
  · exact h
  · obtain rfl | rfl := h
    · rfl
    · cases hkind
  · obtain rfl | rfl | rfl := h
    · rfl
    · cases hkind
    · cases hkind

/-- A class name among the tokens of a tag is that of a class attribute. -/
theorem exists_class_of_isClassName {parts : List Part}
    (hloose : ∀ token, .loose token ∈ parts → token.kind ≠ .attributeName) {token : Token}
    (hmem : token ∈ tokensOf parts) (hname : isClassName token = true) :
    ∃ part ∈ parts, part.isClass = true := by
  have hkind : token.kind = .attributeName := kind_of_isOf hname
  obtain ⟨part, hpart, htoken⟩ := List.mem_flatMap.mp hmem
  refine ⟨part, hpart, ?_⟩
  cases part with
  | loose other =>
    obtain rfl : token = other := by simpa [Part.tokens] using htoken
    exact absurd hkind (hloose token hpart)
  | ofAttribute a =>
    rw [Attribute.eq_name_of_mem_tokens htoken hkind] at hname
    exact hname

theorem exists_isClassName_of_class {parts : List Part} {part : Part} (hmem : part ∈ parts)
    (hclass : part.isClass = true) : ∃ token ∈ tokensOf parts, isClassName token = true := by
  cases part with
  | loose token => cases hclass
  | ofAttribute a =>
    refine ⟨⟨.attributeName, a.name⟩, List.mem_flatMap.mpr ⟨_, hmem, ?_⟩, hclass⟩
    cases a <;> simp [Part.tokens, Attribute.tokens, Attribute.name]

/-! ## What inlining leaves -/

theorem Attribute.isClass_withDeclarations (declarations : String) (a : Attribute) :
    (a.withDeclarations declarations).isClass = a.isClass := by
  have hname : (a.withDeclarations declarations).name = a.name := by
    cases a with
    | bare name => simp only [withDeclarations]; split <;> rfl
    | unassigned name sign => simp only [withDeclarations]; split <;> rfl
    | assigned name sign value => rfl
  rw [isClass, isNamed, hname]
  rfl

theorem Attribute.isClass_of_mem_completeFirst {declarations : String}
    {attributes : List Attribute} (h : ∀ a ∈ attributes, a.isClass = false) :
    ∀ a ∈ completeFirst declarations attributes, a.isClass = false := by
  induction attributes with
  | nil => simp [completeFirst]
  | cons first attributes ih =>
    obtain ⟨hfirst, hrest⟩ := List.forall_mem_cons.mp h
    rw [completeFirst]
    split
    · exact List.forall_mem_cons.mpr ⟨by rw [isClass_withDeclarations, hfirst], hrest⟩
    · exact List.forall_mem_cons.mpr ⟨hfirst, ih hrest⟩

theorem Attribute.isClass_of_mem_restyle {declarations : String} {attributes : List Attribute}
    (h : ∀ a ∈ attributes, a.isClass = false) :
    ∀ a ∈ restyle declarations attributes, a.isClass = false := by
  unfold restyle
  split
  · exact isClass_of_mem_completeFirst h
  · split
    · exact h
    · have hstyle : (Text.lowercaseAscii (Text.trim "style") == "class") = false := by decide
      exact List.forall_mem_cons.mpr ⟨hstyle, h⟩

theorem isClass_of_mem_restyledParts {declarations : String} {parts : List Part} {part : Part}
    (h : part ∈ restyledParts declarations (strip parts)) : part.isClass = false := by
  cases part with
  | loose token => rfl
  | ofAttribute a =>
    have hmem : a ∈ (restyledParts declarations (strip parts)).filterMap Part.attribute? :=
      List.mem_filterMap.mpr ⟨_, h, rfl⟩
    rw [filterMap_restyledParts, strip, filterMap_stripFrom, List.filterMap_nil,
      List.nil_append] at hmem
    refine Attribute.isClass_of_mem_restyle (fun b hb => ?_) a hmem
    simpa using (List.mem_filter.mp hb).2

theorem isClassName_of_mem_restyledParts {declarations : String} {attributes : List Token}
    {token : Token} (h : token ∈ tokensOf (restyledParts declarations (strip (partsOf attributes)))) :
    isClassName token = false := by
  have hloose : ∀ other, .loose other ∈ restyledParts declarations (strip (partsOf attributes)) →
      other.kind ≠ .attributeName := by
    intro other hother
    rcases loose_mem_restyledParts hother with hother | rfl
    · exact kind_of_loose_mem_partsOf hother
    · exact fun hkind => nomatch hkind
  by_contra hname
  obtain ⟨part, hpart, hclass⟩ := exists_class_of_isClassName hloose h (by simpa using hname)
  rw [isClass_of_mem_restyledParts hpart] at hclass
  cases hclass

theorem isOf_restyledName (declarations : String) (parts : List Part) (tag : Token) :
    isOf .tagOpen "style" (restyledName declarations parts tag) = isOf .tagOpen "style" tag := by
  rw [isOf, isOf, kind_restyledName]
  rcases text_restyledName declarations parts tag with htext | ⟨-, htext⟩
  · rw [htext]
  · rw [htext, Text.trim_append_space]

theorem clean_restyledEntry (sheet : Css.Stylesheet) {entry : Entry}
    (h : isOf .tagOpen "style" entry.head = false) : (restyledEntry sheet entry).Clean := by
  unfold restyledEntry
  split
  · refine ⟨?_, fun _ token hmem => ?_⟩
    · rw [isOf_restyledName]
      exact h
    · exact isClassName_of_mem_restyledParts hmem
  · next htag => exact ⟨h, fun htag' => absurd htag' htag⟩

/-- The collector leaves no opening `style` tag, wherever it is. -/
theorem not_opens_of_mem_collectFrom {position : Position} {tokens : List Token} {token : Token}
    (h : token ∈ (collectFrom position tokens).tokens) : isOf .tagOpen "style" token = false := by
  induction tokens generalizing position with
  | nil => cases position <;> simp [collectFrom] at h
  | cons first tokens ih =>
    rcases tokens_collectFrom_cons position first tokens with
      ⟨hkept, hopens, -⟩ | ⟨-, next, -, hdropped⟩
    · rw [hkept] at h
      rcases List.mem_cons.mp h with rfl | h
      · exact hopens
      · exact ih h
    · exact ih (hdropped ▸ h)

theorem clean_inlineStyles (tokens : List Token) : Clean (inlineStyles tokens) := by
  unfold inlineStyles
  rw [clean_iff_entries, entries_inject]
  intro entry hmem
  obtain ⟨before, hbefore, rfl⟩ := List.mem_map.mp hmem
  exact clean_restyledEntry _ ((forall_not_opens _).mp
    (fun _ htoken => not_opens_of_mem_collectFrom htoken) before hbefore)

/-! ## What inlining does to a clean document -/

theorem collectFrom_outside {tokens : List Token}
    (h : ∀ token ∈ tokens, isOf .tagOpen "style" token = false) :
    collectFrom .outside tokens = ⟨tokens, "", false⟩ := by
  have hkept := collectFrom_kept h []
  rw [List.append_nil] at hkept
  rw [hkept]
  simp [collectFrom]

theorem declarationsOfTag_empty (tag : Token) (classes : List String) :
    declarationsOfTag {} tag classes = "" := by
  unfold declarationsOfTag
  split
  · have hclasses : classes.flatMap (Css.matching []) = [] := by
      rw [List.flatMap_eq_nil_iff]
      exact fun _ _ => rfl
    rw [Css.declarationsFor, Css.rulesFor, hclasses]
    rfl
  · rfl

theorem stripFrom_of_not_class {parts : List Part} (h : ∀ part ∈ parts, part.isClass = false)
    (kept : List Part) : stripFrom kept parts = kept ++ parts := by
  induction parts generalizing kept with
  | nil => simp [stripFrom]
  | cons part parts ih =>
    obtain ⟨hpart, hparts⟩ := List.forall_mem_cons.mp h
    rw [stripFrom, hpart, if_neg Bool.false_ne_true, ih hparts, List.append_assoc,
      List.singleton_append]

theorem completeFirst_empty (parts : List Part) : completeFirst "" parts = parts := by
  induction parts with
  | nil => rfl
  | cons part parts ih =>
    cases part with
    | loose token => rw [completeFirst, ih]
    | ofAttribute a =>
      have ha : a.withDeclarations "" = a := by cases a <;> simp [Attribute.withDeclarations]
      simp [completeFirst, ha, ih]

theorem restyledParts_empty (parts : List Part) : restyledParts "" parts = parts := by
  unfold restyledParts
  split
  · exact completeFirst_empty parts
  · rfl

theorem restyledName_empty (parts : List Part) (tag : Token) : restyledName "" parts tag = tag := by
  unfold restyledName
  split <;> rfl

theorem Entry.Clean.restyledEntry_empty {entry : Entry} (h : entry.Clean) :
    restyledEntry {} entry = entry := by
  unfold restyledEntry
  split
  · next htag =>
    have hclass : ∀ part ∈ partsOf entry.attributes, part.isClass = false := by
      intro part hpart
      by_contra hne
      obtain ⟨token, htoken, hname⟩ := exists_isClassName_of_class hpart (by simpa using hne)
      rw [tokensOf_partsOf] at htoken
      rw [h.noClass htag token htoken] at hname
      cases hname
    simp only [declarationsOfTag_empty, restyledName_empty, restyledParts_empty, strip,
      stripFrom_of_not_class hclass, List.nil_append, tokensOf_partsOf]
  · rfl

theorem Clean.inject_empty {tokens : List Token} (h : Clean tokens) : inject {} tokens = tokens := by
  have hentries : (entries tokens).map (restyledEntry {}) = entries tokens := by
    refine (List.map_congr_left fun entry hmem => ?_).trans (List.map_id _)
    exact ((clean_iff_entries tokens).mp h entry hmem).restyledEntry_empty
  have hinject := attributesOf_append_entries (inject {} tokens)
  rw [attributesOf_inject, entries_inject, hentries, attributesOf_append_entries] at hinject
  exact hinject.symm

theorem Clean.inlineStyles_eq {tokens : List Token} (h : Clean tokens) :
    inlineStyles tokens = tokens := by
  unfold inlineStyles collectStyleBlocks
  rw [collectFrom_outside h.noBlock]
  exact h.inject_empty

/-- Inlining makes every document clean and leaves the clean ones alone, and no others. So inlining
twice is inlining once. -/
theorem inlineStyles_clean :
    (∀ tokens, Clean (inlineStyles tokens)) ∧
      (∀ tokens, inlineStyles tokens = tokens ↔ Clean tokens) ∧
      ∀ tokens, inlineStyles (inlineStyles tokens) = inlineStyles tokens := by
  refine ⟨clean_inlineStyles, fun tokens => ⟨fun h => ?_, Clean.inlineStyles_eq⟩, fun tokens => ?_⟩
  · rw [← h]
    exact clean_inlineStyles tokens
  · exact (clean_inlineStyles tokens).inlineStyles_eq

end MailTemplate.Inlining
