import MailTemplate.Proofs.Inlining.Clean

/-! # Positions in a tag

What the scan of a tag reads, said about positions. The tokens of an attribute stand together behind
its name (`groupAt_cases`), so no position is in two attributes (`InGroup.unique`). The blanks that
it counts are those right behind or right before a position (`has_blank_behind`,
`has_blank_before`). -/

namespace MailTemplate.Inlining

open Markup

/-- There is a token at this position, and the test accepts it. -/
def Has (tokens : List Token) (position : Nat) (accepts : Token → Bool) : Prop :=
  ∃ token, tokens[position]? = some token ∧ accepts token = true

def Range.Contains (range : Range) (position : Nat) : Prop :=
  range.start ≤ position ∧ position < range.stop

/-- A position in the attribute with its name at `name`, in a tag that ends at `stop`. -/
def InGroup (tokens : List Token) (stop name position : Nat) : Prop :=
  name ≤ position ∧ position < (groupAt tokens stop name).stop

/-- The name of a class attribute of a tag. -/
structure ClassName (tokens : List Token) (span : TagSpan) (name : Nat) : Prop where
  first : span.tag < name
  last : name < span.stop
  isClass : Has tokens name isClassName

/-- A position in a class attribute of a tag, or one of a blank. -/
def Removable (tokens : List Token) (span : TagSpan) (position : Nat) : Prop :=
  (∃ name, ClassName tokens span name ∧ InGroup tokens span.stop name position) ∨
    Has tokens position Token.isBlank

/-! ## The tokens of one attribute -/

def isName (token : Token) : Bool :=
  token.kind == .attributeName

/-- The tokens that an attribute goes on with behind its name. -/
def continuesGroup (token : Token) : Bool :=
  token.kind == .attributeEquals || token.kind == .attributeValue

theorem has_iff {tokens : List Token} {position : Nat} {token : Token} {accepts : Token → Bool}
    (hget : tokens[position]? = some token) :
    Has tokens position accepts ↔ accepts token = true := by
  simp [Has, hget]

theorem Has.imp {tokens : List Token} {position : Nat} {accepts others : Token → Bool}
    (h : Has tokens position accepts)
    (himp : ∀ token, accepts token = true → others token = true) : Has tokens position others := by
  obtain ⟨token, hget, htoken⟩ := h
  exact ⟨token, hget, himp token htoken⟩

theorem Has.not {tokens : List Token} {position : Nat} {accepts others : Token → Bool}
    (h : Has tokens position accepts)
    (hne : ∀ token, accepts token = true → others token = false) : ¬ Has tokens position others := by
  obtain ⟨token, hget, htoken⟩ := h
  rw [has_iff hget, hne token htoken]
  exact Bool.false_ne_true

theorem not_continuesGroup_of_isName {token : Token} (h : isName token = true) :
    continuesGroup token = false := by
  simp_all [isName, continuesGroup]

theorem not_isBlank_of_isName {token : Token} (h : isName token = true) :
    token.isBlank = false := by
  simp_all [isName, Token.isBlank]

theorem not_isBlank_of_continuesGroup {token : Token} (h : continuesGroup token = true) :
    token.isBlank = false := by
  simp only [continuesGroup, Bool.or_eq_true, beq_iff_eq] at h
  rcases h with h | h <;> simp [Token.isBlank, h]

section

variable {tokens : List Token} {stop name position : Nat}

theorem hasKindAt_iff {kind : Kind} :
    hasKindAt tokens stop position kind = true ↔
      position < stop ∧ Has tokens position fun token => token.kind == kind := by
  simp [hasKindAt, Has, Option.any_eq_true]

/-- What an attribute can be. -/
theorem groupAt_cases (tokens : List Token) (stop name : Nat) :
    groupAt tokens stop name = ⟨none, name + 1⟩ ∨
      name + 1 < stop ∧ Has tokens (name + 1) continuesGroup ∧
        (groupAt tokens stop name = ⟨none, name + 2⟩ ∨
          name + 2 < stop ∧ Has tokens (name + 2) continuesGroup ∧
            groupAt tokens stop name = ⟨some (name + 2), name + 3⟩) := by
  have hcontinues {position : Nat} {kind : Kind} (h : hasKindAt tokens stop position kind = true)
      (hkind : kind = .attributeEquals ∨ kind = .attributeValue) :
      position < stop ∧ Has tokens position continuesGroup := by
    obtain ⟨hlt, token, hget, htoken⟩ := hasKindAt_iff.mp h
    refine ⟨hlt, token, hget, ?_⟩
    obtain rfl := eq_of_beq htoken
    simpa [continuesGroup] using hkind
  unfold groupAt
  split
  · exact .inl rfl
  · next hsign =>
    obtain ⟨hlt, hhas⟩ := hcontinues (by simpa using hsign) (.inl rfl)
    split
    · exact .inr ⟨hlt, hhas, .inl rfl⟩
    · next hvalue =>
      obtain ⟨hlt', hhas'⟩ := hcontinues (by simpa using hvalue) (.inr rfl)
      exact .inr ⟨hlt, hhas, .inr ⟨hlt', hhas', rfl⟩⟩

theorem stop_groupAt_le (h : name < stop) : (groupAt tokens stop name).stop ≤ stop := by
  rcases groupAt_cases tokens stop name with hgroup | ⟨hlt, -, hgroup | ⟨hlt', -, hgroup⟩⟩ <;>
    rw [hgroup] <;> simp only <;> omega

theorem value_groupAt {value : Nat} (h : (groupAt tokens stop name).value = some value) :
    (groupAt tokens stop name).stop = value + 1 := by
  rcases groupAt_cases tokens stop name with hgroup | ⟨-, -, hgroup | ⟨-, -, hgroup⟩⟩ <;>
    rw [hgroup] at h ⊢ <;> cases h
  rfl

theorem InGroup.continues (h : InGroup tokens stop name position) (hne : position ≠ name) :
    Has tokens position continuesGroup := by
  obtain ⟨hfirst, hlast⟩ := h
  rcases groupAt_cases tokens stop name with hgroup | ⟨-, hsign, hgroup | ⟨-, hvalue, hgroup⟩⟩ <;>
    rw [hgroup] at hlast <;> simp only at hlast
  · omega
  · obtain rfl : position = name + 1 := by omega
    exact hsign
  · obtain rfl | rfl : position = name + 1 ∨ position = name + 2 := by omega
    · exact hsign
    · exact hvalue

/-- A position is in one attribute only. -/
theorem InGroup.unique {other : Nat} (h : InGroup tokens stop name position)
    (hother : InGroup tokens stop other position) (hname : Has tokens name isName)
    (hisName : Has tokens other isName) : name = other := by
  rcases Nat.lt_trichotomy name other with hlt | heq | hlt
  · have hin : InGroup tokens stop name other := ⟨by omega, Nat.lt_of_le_of_lt hother.1 h.2⟩
    exact absurd (hin.continues (by omega)) (hisName.not fun _ => not_continuesGroup_of_isName)
  · exact heq
  · have hin : InGroup tokens stop other name := ⟨by omega, Nat.lt_of_le_of_lt h.1 hother.2⟩
    exact absurd (hin.continues (by omega)) (hname.not fun _ => not_continuesGroup_of_isName)

theorem InGroup.not_blank (h : InGroup tokens stop name position) (hname : Has tokens name isName) :
    ¬ Has tokens position Token.isBlank := by
  by_cases heq : position = name
  · subst heq
    exact hname.not fun _ => not_isBlank_of_isName
  · exact (h.continues heq).not fun _ => not_isBlank_of_continuesGroup

end

theorem isName_of_isOf {name : String} {token : Token} (h : isOf .attributeName name token = true) :
    isName token = true :=
  beq_iff_eq.mpr (kind_of_isOf h)

/-- No token of another attribute may be removed. -/
theorem InGroup.not_removable {tokens : List Token} {span : TagSpan} {name position : Nat}
    (h : InGroup tokens span.stop name position) (hname : Has tokens name isName)
    (hclass : ¬ Has tokens name isClassName) : ¬ Removable tokens span position := by
  rintro (⟨other, hother, hin⟩ | hblank)
  · have hisName := hother.isClass.imp fun _ => isName_of_isOf
    obtain rfl := h.unique hin hname hisName
    exact hclass hother.isClass
  · exact h.not_blank hname hblank

/-! ## Blanks -/

theorem has_blank_of_lt {tokens : List Token} {n : Nat} (h : n < blankCount tokens) :
    Has tokens n Token.isBlank := by
  have hget : tokens[n]? = (tokens.takeWhile Token.isBlank)[n]? := by
    conv_lhs => rw [← List.takeWhile_append_dropWhile (p := Token.isBlank) (l := tokens)]
    exact List.getElem?_append_left h
  refine ⟨(tokens.takeWhile Token.isBlank)[n], ?_, ?_⟩
  · rw [hget, List.getElem?_eq_getElem h]
  · exact List.mem_takeWhile_imp (List.getElem_mem h)

theorem getElem?_extract {tokens : List Token} {first last n : Nat} (h : n < last - first) :
    (tokens.extract first last)[n]? = tokens[first + n]? := by
  rw [List.extract_eq_take_drop, List.getElem?_take_of_lt h, List.getElem?_drop]

/-- The blanks from a position on. -/
theorem has_blank_behind {tokens : List Token} {first last position : Nat}
    (hfirst : first ≤ position)
    (hlast : position < first + blankCount (tokens.extract first last)) :
    position < last ∧ Has tokens position Token.isBlank := by
  obtain ⟨n, rfl⟩ := Nat.exists_eq_add_of_le hfirst
  have hn : n < blankCount (tokens.extract first last) := Nat.lt_of_add_lt_add_left hlast
  have hlength : (tokens.extract first last).length ≤ last - first := by
    rw [List.extract_eq_take_drop, List.length_take]
    exact Nat.min_le_left _ _
  have hle := blankCount_le (tokens.extract first last)
  obtain ⟨token, hget, htoken⟩ := has_blank_of_lt hn
  rw [getElem?_extract (by omega)] at hget
  exact ⟨by omega, token, hget, htoken⟩

/-- The blanks in front of a position. -/
theorem has_blank_before {tokens : List Token} {first last position : Nat}
    (hbound : last ≤ tokens.length)
    (hfirst : last - blankCount (tokens.extract first last).reverse ≤ position)
    (hlast : position < last) : first ≤ position ∧ Has tokens position Token.isBlank := by
  have hlength : (tokens.extract first last).length = last - first := by
    rw [List.extract_eq_take_drop, List.length_take, List.length_drop]
    omega
  have hle := blankCount_le (tokens.extract first last).reverse
  rw [List.length_reverse] at hle
  obtain ⟨token, hget, htoken⟩ := has_blank_of_lt
    (show last - 1 - position < blankCount (tokens.extract first last).reverse by omega)
  rw [List.getElem?_reverse (by omega), hlength, getElem?_extract (by omega),
    show first + (last - first - 1 - (last - 1 - position)) = position by omega] at hget
  exact ⟨by omega, token, hget, htoken⟩

end MailTemplate.Inlining
