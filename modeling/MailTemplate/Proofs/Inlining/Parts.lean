import MailTemplate.Inlining.Inject

/-! # A tag in parts

The attribute tokens of a tag are read as a list of parts: attributes, each with the tokens that
belong to it, and loose tokens between them. Nothing is lost by it (`tokensOf_partsOf`), and it is
how the scan sees a tag, also one that no text has (`partsOf_eq_cons`). -/

namespace MailTemplate.Inlining

open Markup

/-- An attribute with the texts of its name, its `=` and its value. -/
inductive Attribute where
  | bare (name : String)
  | unassigned (name sign : String)
  | assigned (name sign value : String)
  deriving DecidableEq, Inhabited

namespace Attribute

def name : Attribute → String
  | bare name | unassigned name _ | assigned name _ _ => name

def value? : Attribute → Option String
  | bare _ | unassigned _ _ => none
  | assigned _ _ value => some value

def tokens : Attribute → List Token
  | bare name => [⟨.attributeName, name⟩]
  | unassigned name sign => [⟨.attributeName, name⟩, ⟨.attributeEquals, sign⟩]
  | assigned name sign value =>
    [⟨.attributeName, name⟩, ⟨.attributeEquals, sign⟩, ⟨.attributeValue, value⟩]

/-- Names are compared without the white space around them, and without regard to case. -/
def isNamed (a : Attribute) (name : String) : Bool :=
  Text.lowercaseAscii (Text.trim a.name) == name

def isClass (a : Attribute) : Bool :=
  a.isNamed "class"

def isStyle (a : Attribute) : Bool :=
  a.isNamed "style"

/-- The class names that an attribute gives to its tag. -/
def classes (a : Attribute) : List String :=
  if a.isClass then a.value?.elim [] Text.words else []

/-- The attribute with declarations in front of its value; one without a value gets them as its
value, if there are any. -/
def withDeclarations (declarations : String) : Attribute → Attribute
  | bare name => if declarations.isEmpty then bare name else assigned name "=" declarations
  | unassigned name sign =>
    if declarations.isEmpty then unassigned name sign else assigned name sign declarations
  | assigned name sign value => assigned name sign (declarations ++ value)

theorem isStyle_eq_false_of_isClass {a : Attribute} (h : a.isClass = true) :
    a.isStyle = false := by
  simp only [isClass, isStyle, isNamed, beq_iff_eq] at h ⊢
  rw [h]
  decide

theorem tokens_ne_nil (a : Attribute) : a.tokens ≠ [] := by
  cases a <;> simp [tokens]

end Attribute

/-- A part of a tag behind its name: an attribute, or a token that belongs to none. -/
inductive Part where
  | ofAttribute (a : Attribute)
  | loose (token : Token)
  deriving DecidableEq, Inhabited

namespace Part

def tokens : Part → List Token
  | ofAttribute a => a.tokens
  | loose token => [token]

def attribute? : Part → Option Attribute
  | ofAttribute a => some a
  | loose _ => none

def isClass (part : Part) : Bool :=
  part.attribute?.any Attribute.isClass

def isStyle (part : Part) : Bool :=
  part.attribute?.any Attribute.isStyle

def classes (part : Part) : List String :=
  part.attribute?.elim [] Attribute.classes

def isBlank : Part → Bool
  | ofAttribute _ => false
  | loose token => token.isBlank

theorem tokens_ne_nil (part : Part) : part.tokens ≠ [] := by
  cases part with
  | ofAttribute a => exact a.tokens_ne_nil
  | loose token => simp [tokens]

theorem length_tokens_pos (part : Part) : 0 < part.tokens.length :=
  List.length_pos_iff.mpr part.tokens_ne_nil

theorem isStyle_eq_false_of_isClass {part : Part} (h : part.isClass = true) :
    part.isStyle = false := by
  cases part with
  | ofAttribute a => exact Attribute.isStyle_eq_false_of_isClass h
  | loose token => rfl

theorem isStyle_eq_false_of_isBlank {part : Part} (h : part.isBlank = true) :
    part.isStyle = false := by
  cases part with
  | ofAttribute a => simp [isBlank] at h
  | loose token => rfl

theorem classes_eq_nil {part : Part} (h : part.isClass = false) : part.classes = [] := by
  cases part with
  | ofAttribute a =>
    have h : a.isClass = false := h
    simp [classes, attribute?, Attribute.classes, h]
  | loose token => rfl

end Part

/-- The tokens of a list of parts. -/
def tokensOf (parts : List Part) : List Token :=
  parts.flatMap Part.tokens

@[simp] theorem tokensOf_nil : tokensOf [] = [] := rfl

@[simp] theorem tokensOf_cons (part : Part) (parts : List Part) :
    tokensOf (part :: parts) = part.tokens ++ tokensOf parts := by
  simp [tokensOf]

@[simp] theorem tokensOf_append (parts rest : List Part) :
    tokensOf (parts ++ rest) = tokensOf parts ++ tokensOf rest := by
  simp [tokensOf]

/-- An `=` belongs to the name right before it, and a value to such an `=`. -/
def partsOf : List Token → List Part
  | ⟨.attributeName, name⟩ :: ⟨.attributeEquals, sign⟩ :: ⟨.attributeValue, value⟩ :: rest =>
    .ofAttribute (.assigned name sign value) :: partsOf rest
  | ⟨.attributeName, name⟩ :: ⟨.attributeEquals, sign⟩ :: rest =>
    .ofAttribute (.unassigned name sign) :: partsOf rest
  | ⟨.attributeName, name⟩ :: rest => .ofAttribute (.bare name) :: partsOf rest
  | token :: rest => .loose token :: partsOf rest
  | [] => []

/-- The attributes of a tag. -/
def attributesIn (tokens : List Token) : List Attribute :=
  (partsOf tokens).filterMap Part.attribute?

theorem tokensOf_partsOf (tokens : List Token) : tokensOf (partsOf tokens) = tokens := by
  fun_induction partsOf tokens <;> simp_all [Part.tokens, Attribute.tokens]

theorem partsOf_eq_nil {tokens : List Token} : partsOf tokens = [] ↔ tokens = [] := by
  constructor
  · intro h
    rw [← tokensOf_partsOf tokens, h, tokensOf_nil]
  · rintro rfl
    rfl

/-- The tokens after a part do not continue it. -/
def Part.EndsBefore (part : Part) (rest : List Token) : Prop :=
  match part with
  | .ofAttribute (.bare _) => rest.head?.map Token.kind ≠ some .attributeEquals
  | .ofAttribute (.unassigned _ _) => rest.head?.map Token.kind ≠ some .attributeValue
  | .ofAttribute (.assigned _ _ _) => True
  | .loose token => token.kind ≠ .attributeName

theorem head_kind_ne {tokens : List Token} {kind : Kind}
    (h : ∀ text rest, tokens = ⟨kind, text⟩ :: rest → False) :
    tokens.head?.map Token.kind ≠ some kind := by
  intro hk
  rcases tokens with _ | ⟨⟨_, text⟩, rest⟩
  · simp at hk
  · obtain rfl : _ = kind := by simpa using hk
    exact h text rest rfl

/-- The first part of a tag with the tokens behind it. -/
theorem partsOf_eq_cons {tokens : List Token} {part : Part} {parts : List Part}
    (h : partsOf tokens = part :: parts) :
    ∃ rest, tokens = part.tokens ++ rest ∧ partsOf rest = parts ∧ part.EndsBefore rest := by
  revert h
  fun_cases partsOf tokens with
  | case1 name sign value rest =>
    rintro ⟨⟩
    exact ⟨rest, rfl, rfl, trivial⟩
  | case2 name sign rest hvalue =>
    rintro ⟨⟩
    exact ⟨rest, rfl, rfl, head_kind_ne hvalue⟩
  | case3 name rest _ hsign =>
    rintro ⟨⟩
    exact ⟨rest, rfl, rfl, head_kind_ne hsign⟩
  | case4 token rest _ _ hname =>
    rintro ⟨⟩
    exact ⟨rest, rfl, rfl, fun hk => hname token.text (by rw [← hk])⟩
  | case5 => simp

theorem partsOf_append {part : Part} {rest : List Token} (h : part.EndsBefore rest) :
    partsOf (part.tokens ++ rest) = part :: partsOf rest := by
  rcases part with (name | ⟨name, sign⟩ | ⟨name, sign, value⟩) | ⟨kind, text⟩
  · rcases rest with _ | ⟨⟨kind, text⟩, rest⟩
    · rfl
    · cases kind <;> simp_all [Part.EndsBefore, Part.tokens, Attribute.tokens, partsOf]
  · rcases rest with _ | ⟨⟨kind, text⟩, rest⟩
    · rfl
    · cases kind <;> simp_all [Part.EndsBefore, Part.tokens, Attribute.tokens, partsOf]
  · rfl
  · cases kind <;> simp_all [Part.EndsBefore, Part.tokens, partsOf]

end MailTemplate.Inlining
