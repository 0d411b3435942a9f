import MailTemplate.Proofs.Inlining.GroupedTags
import MailTemplate.Proofs.Text.Trim

/-! # Tags and the content between them

The outline of a document is its tags, each with its attributes, and the content before, between and
behind them. It can be gathered from the last token to the first one (`outline_eq_shape`), so that
streams which end alike have outlines that end alike (`shape_append`). -/

namespace MailTemplate.Inlining

open Markup

/-- A tag, with the content up to the next tag. -/
structure TagOutline (α : Type) where
  kind : Kind
  /-- The trimmed tag name. -/
  name : String
  attributes : α
  content : List Char
  deriving DecidableEq

structure Outline (α : Type) where
  /-- The content before the first tag. -/
  content : List Char
  tags : List (TagOutline α)
  deriving DecidableEq

def outline : List Token → Outline (List Attribute)
  | [] => ⟨[], []⟩
  | token :: tokens =>
    let behind := outline tokens
    match token.kind with
    | .tagOpen | .tagClose =>
      ⟨[], ⟨token.kind, Text.trim token.text, attributesIn (attributesOf tokens), behind.content⟩ ::
        behind.tags⟩
    | .content => ⟨token.text.toList ++ behind.content, behind.tags⟩
    | .tagContinuation | .attributeName | .attributeEquals | .attributeValue => behind

namespace Outline

variable {α β : Type}

def map (f : α → β) (o : Outline α) : Outline β where
  content := o.content
  tags := o.tags.map fun tag => ⟨tag.kind, tag.name, f tag.attributes, tag.content⟩

/-- The tags, with the content behind the last one changed. -/
def mapLast (f : List Char → List Char) : List (TagOutline α) → List (TagOutline α)
  | [] => []
  | [tag] => [{ tag with content := f tag.content }]
  | tag :: next :: tags => tag :: mapLast f (next :: tags)

/-- The outline without the white space at the two ends of the document. -/
def trimmed (o : Outline α) : Outline α where
  content := if o.tags = [] then Text.trimChars o.content else Text.trimStart o.content
  tags := mapLast Text.trimEnd o.tags

/-- More content in front of the document. -/
def precede (before : List Char) (o : Outline α) : Outline α where
  content := before ++ o.content
  tags := o.tags

/-- More content at the end of the document. -/
def extend (behind : List Char) (o : Outline α) : Outline α where
  content := if o.tags = [] then o.content ++ behind else o.content
  tags := mapLast (· ++ behind) o.tags

theorem mapLast_eq_nil {f : List Char → List Char} {tags : List (TagOutline α)} :
    mapLast f tags = [] ↔ tags = [] := by
  cases tags with
  | nil => simp [mapLast]
  | cons tag tags => cases tags <;> simp [mapLast]

theorem mapLast_mapLast (f g : List Char → List Char) (tags : List (TagOutline α)) :
    mapLast f (mapLast g tags) = mapLast (fun content => f (g content)) tags := by
  fun_induction mapLast g tags with
  | case1 => rfl
  | case2 tag => rfl
  | case3 tag next tags ih =>
    obtain ⟨last, others, hcons⟩ := List.exists_cons_of_ne_nil
      (mt mapLast_eq_nil.mp (List.cons_ne_nil next tags) : mapLast g (next :: tags) ≠ [])
    rw [hcons, mapLast, ← hcons, ih, mapLast]

theorem map_mapLast (f : α → β) (g : List Char → List Char) (tags : List (TagOutline α)) :
    (mapLast g tags).map (fun tag => (⟨tag.kind, tag.name, f tag.attributes, tag.content⟩ :
        TagOutline β)) =
      mapLast g (tags.map fun tag => ⟨tag.kind, tag.name, f tag.attributes, tag.content⟩) := by
  fun_induction mapLast g tags with
  | case1 => rfl
  | case2 tag => rfl
  | case3 tag next tags ih => rw [List.map_cons, ih]; rfl

theorem map_trimmed (f : α → β) (o : Outline α) : o.trimmed.map f = (o.map f).trimmed := by
  simp [trimmed, map, map_mapLast]

theorem trimmed_precede {before : List Char} (h : ∀ c ∈ before, Text.isBlank c = true)
    (o : Outline α) : (o.precede before).trimmed = o.trimmed := by
  have hstart := Text.trimStart_blanks_append h o.content
  simp [trimmed, precede, Text.trimChars, hstart]

theorem trimmed_extend {behind : List Char} (h : ∀ c ∈ behind, Text.isBlank c = true)
    (o : Outline α) : (o.extend behind).trimmed = o.trimmed := by
  have hend (content : List Char) : Text.trimEnd (content ++ behind) = Text.trimEnd content :=
    Text.trimEnd_append_blanks h content
  by_cases htags : o.tags = []
  · simp [trimmed, extend, htags, mapLast, Text.trimChars_append_blanks h]
  · simp [trimmed, extend, htags, mapLast_eq_nil, mapLast_mapLast, hend]

theorem extend_nil (o : Outline α) : o.extend [] = o := by
  have htags (tags : List (TagOutline α)) : mapLast (· ++ []) tags = tags := by
    fun_induction mapLast (· ++ []) tags with
    | case1 => rfl
    | case2 tag => simp
    | case3 tag next tags ih => rw [ih]
  unfold extend
  rw [htags, List.append_nil, ite_self]

end Outline

/-! ## Outlines as folds -/

/-- What the end of a document says: the attribute tokens at its head, which belong to a tag before
it, and its outline. -/
structure Shape where
  attributes : List Token
  outline : Outline (List Token)

namespace Shape

def empty : Shape :=
  ⟨[], ⟨[], []⟩⟩

/-- One more token in front. -/
def cons (token : Token) (shape : Shape) : Shape :=
  match token.kind with
  | .tagOpen | .tagClose =>
    ⟨[], [], ⟨token.kind, Text.trim token.text, shape.attributes, shape.outline.content⟩ ::
      shape.outline.tags⟩
  | .content => ⟨[], token.text.toList ++ shape.outline.content, shape.outline.tags⟩
  | .tagContinuation => shape
  | .attributeName | .attributeEquals | .attributeValue =>
    ⟨token :: shape.attributes, shape.outline⟩

def extend (behind : List Char) (shape : Shape) : Shape :=
  ⟨shape.attributes, shape.outline.extend behind⟩

theorem extend_nil (shape : Shape) : shape.extend [] = shape := by
  rw [extend, Outline.extend_nil]

theorem cons_extend (behind : List Char) (token : Token) (shape : Shape) :
    (shape.extend behind).cons token = (shape.cons token).extend behind := by
  obtain ⟨attributes, content, tags⟩ := shape
  obtain ⟨kind, text⟩ := token
  cases kind <;> cases tags <;> simp [cons, extend, Outline.extend, Outline.mapLast]

/-- Neighboring contents are one. -/
theorem cons_cons_content (text more : String) (shape : Shape) :
    (shape.cons ⟨.content, more⟩).cons ⟨.content, text⟩ = shape.cons ⟨.content, text ++ more⟩ := by
  simp [cons]

end Shape

def shape (tokens : List Token) : Shape :=
  tokens.foldr Shape.cons .empty

@[simp] theorem shape_nil : shape [] = .empty := rfl

@[simp] theorem shape_cons (token : Token) (tokens : List Token) :
    shape (token :: tokens) = (shape tokens).cons token := rfl

theorem shape_append (tokens rest : List Token) :
    shape (tokens ++ rest) = tokens.foldr Shape.cons (shape rest) := by
  simp [shape, List.foldr_append]

theorem shape_append_extend {rest other : List Token} {behind : List Char}
    (h : shape rest = (shape other).extend behind) (tokens : List Token) :
    shape (tokens ++ rest) = (shape (tokens ++ other)).extend behind := by
  induction tokens with
  | nil => exact h
  | cons token tokens ih => rw [List.cons_append, shape_cons, ih, Shape.cons_extend]; rfl

/-- Blanks in a tag do not matter. -/
theorem shape_continuations {blanks : List Token}
    (h : ∀ token ∈ blanks, token.kind = .tagContinuation) (tokens : List Token) :
    shape (blanks ++ tokens) = shape tokens := by
  induction blanks with
  | nil => rfl
  | cons token blanks ih =>
    obtain ⟨htoken, hblanks⟩ := List.forall_mem_cons.mp h
    rw [List.cons_append, shape_cons, ih hblanks, Shape.cons, htoken]

/-! ## Attributes without blanks -/

def isContinuation (token : Token) : Bool :=
  token.kind == .tagContinuation

theorem attributes_shape (tokens : List Token) :
    (shape tokens).attributes = (attributesOf tokens).filter (!isContinuation ·) := by
  induction tokens with
  | nil => rfl
  | cons token tokens ih =>
    obtain ⟨kind, text⟩ := token
    cases kind <;>
      simp [Shape.cons, attributesOf, List.takeWhile_cons, Token.isAttribute, Kind.isAttribute,
        isContinuation, ih]

theorem filter_tokensOf {parts : List Part} (h : Regular parts) :
    (tokensOf parts).filter (!isContinuation ·) =
      tokensOf (parts.filter fun part => part.attribute?.isSome) := by
  induction parts with
  | nil => rfl
  | cons part parts ih =>
    rw [tokensOf_cons, List.filter_append, ih h.tail]
    cases part with
    | ofAttribute a =>
      have ha : a.tokens.filter (!isContinuation ·) = a.tokens := by cases a <;> rfl
      simp [Part.tokens, Part.attribute?, ha]
    | loose token =>
      have htoken : isContinuation token = true := by
        simp [isContinuation, h token List.mem_cons_self]
      simp [Part.tokens, Part.attribute?, htoken]

/-- The attributes of a tag can be read without the blanks between them. -/
theorem attributesIn_filter {tokens : List Token} (h : Regular (partsOf tokens)) :
    attributesIn (tokens.filter (!isContinuation ·)) = attributesIn tokens := by
  have hregular : Regular ((partsOf tokens).filter fun part => part.attribute?.isSome) :=
    fun token hmem => h token (List.mem_filter.mp hmem).1
  have hfilter := filter_tokensOf h
  rw [tokensOf_partsOf] at hfilter
  rw [attributesIn, hfilter, partsOf_tokensOf hregular, attributesIn, List.filterMap_filter]
  refine List.filterMap_congr fun part _ => ?_
  cases part <;> rfl

theorem regular_attributesOf {before : Option Kind} {tokens : List Token}
    (h : GroupedAfter before tokens) (hname : before ≠ some .attributeName)
    (hsign : before ≠ some .attributeEquals) : Regular (partsOf (attributesOf tokens)) := by
  have hgrouped := ((groupedAfter_iff_entries before tokens).mp h).1
  exact regular_partsOf hgrouped (startsPart_of_groupedAfter hgrouped (fun hb => absurd hb hname)
    fun hb => absurd hb hsign) fun _ hmem => isAttribute_of_mem_attributesOf hmem

theorem outline_eq_shape {before : Option Kind} {tokens : List Token}
    (h : GroupedAfter before tokens) : outline tokens = (shape tokens).outline.map attributesIn := by
  induction tokens generalizing before with
  | nil => rfl
  | cons token tokens ih =>
    have htokens := ih h.2.2
    have hattributes (hname : token.kind ≠ .attributeName) (hsign : token.kind ≠ .attributeEquals) :
        attributesIn (shape tokens).attributes = attributesIn (attributesOf tokens) := by
      rw [attributes_shape]
      exact attributesIn_filter (regular_attributesOf h.2.2 (by simpa using hname)
        (by simpa using hsign))
    obtain ⟨kind, text⟩ := token
    cases kind <;> simp_all [outline, Shape.cons, Outline.map]

end MailTemplate.Inlining
