import MailTemplate.Proofs.Inlining.Restyled
import MailTemplate.Proofs.Markup.Plain
import MailTemplate.Proofs.Text.Trim

/-! # Legible tags

Taking style blocks out of a legible stream leaves it legible: a block begins outside of all tags,
and what is kept behind it is not a part of a tag. Injecting leaves it legible if no declarations
have a quote and every white space in a tag name is one that ends it (`legible_inject`). Each tag can
be looked at on its own, part by part. -/

namespace MailTemplate.Inlining

open Markup Lexer

/-! ## Streams without style blocks -/

theorem outside_of_opens {mode : Mode} {token : Token} (h : token.LegibleIn mode)
    (hopens : isOf .tagOpen "style" token = true) : mode.Outside := by
  obtain ⟨kind, text⟩ := token
  obtain rfl : kind = .tagOpen := kind_of_isOf hopens
  exact h.1

/-- Outside a block the stream goes on behind what was kept last; in a block it will go on outside of
all tags. -/
theorem legible_collectFrom {position : Position} {mode kept : Mode} {tokens : List Token}
    (h : Legible mode tokens) (hkept : position = .outside → kept = mode)
    (hblock : position ≠ .outside → kept.Outside) :
    Legible kept (collectFrom position tokens).tokens := by
  induction tokens generalizing position mode kept with
  | nil => cases position <;> trivial
  | cons token tokens ih =>
    obtain ⟨htoken, htokens⟩ := h
    rcases tokens_collectFrom_cons position token tokens with
      ⟨hcons, -, hplace⟩ | ⟨hopens, next, hnext, hdropped⟩
    · rw [hcons]
      refine ⟨?_, ih htokens (fun _ => rfl) fun hout => absurd rfl hout⟩
      by_cases hout : position = .outside
      · rw [hkept hout]
        exact htoken
      · exact htoken.outside (hplace.resolve_left hout) (hblock hout)
    · rw [hdropped]
      refine ih htokens (fun hout => absurd hout hnext) fun _ => ?_
      by_cases hout : position = .outside
      · rw [hkept hout]
        exact outside_of_opens htoken (hopens hout)
      · exact hblock hout

theorem legible_collectStyleBlocks {tokens : List Token} (h : Legible .start tokens) :
    Legible .start (collectStyleBlocks tokens).tokens :=
  legible_collectFrom h (fun _ => rfl) fun hp => absurd rfl hp

/-! ## Parts of a tag -/

namespace Attribute

/-- The attribute is read as written behind a blank. -/
def Legible : Attribute → Prop
  | bare name => IsAttributeName name.toList
  | unassigned name sign => IsAttributeName name.toList ∧ sign = "="
  | assigned name sign value => IsAttributeName name.toList ∧ sign = "=" ∧ '"' ∉ value.toList

/-- The mode of a lexer that has read the attribute. -/
def modeBehind : Attribute → Mode
  | bare _ => .attributeName
  | unassigned _ _ => .attributeEquals
  | assigned _ _ _ => .tagContinuation

theorem Legible.withDeclarations {a : Attribute} (h : a.Legible) {declarations : String}
    (hquote : '"' ∉ declarations.toList) : (a.withDeclarations declarations).Legible := by
  cases a with
  | bare name =>
    simp only [Attribute.withDeclarations]
    split
    · exact h
    · exact ⟨h, rfl, hquote⟩
  | unassigned name sign =>
    simp only [Attribute.withDeclarations]
    split
    · exact h
    · exact ⟨h.1, h.2, hquote⟩
  | assigned name sign value =>
    refine ⟨h.1, h.2.1, fun hmem => ?_⟩
    rw [String.toList_append] at hmem
    exact (List.mem_append.mp hmem).elim hquote h.2.2

/-- An attribute that gets a value ends with its quote. -/
theorem modeBehind_withDeclarations (declarations : String) (a : Attribute) :
    (a.withDeclarations declarations).modeBehind = a.modeBehind ∨
      (a.withDeclarations declarations).modeBehind = .tagContinuation := by
  cases a with
  | bare name =>
    simp only [withDeclarations]
    split <;> simp [modeBehind]
  | unassigned name sign =>
    simp only [withDeclarations]
    split <;> simp [modeBehind]
  | assigned name sign value => exact .inl rfl

end Attribute

namespace Part

def LegibleIn (mode : Mode) : Part → Prop
  | ofAttribute a => mode = .tagContinuation ∧ a.Legible
  | loose token => token.kind = .tagContinuation ∧ token.LegibleIn mode

def modeBehind : Part → Mode
  | ofAttribute a => a.modeBehind
  | loose token => token.modeBehind

/-- Behind a blank every part is legible. -/
theorem LegibleIn.behindBlank {mode : Mode} {part : Part} (h : part.LegibleIn mode) :
    part.LegibleIn .tagContinuation := by
  cases part with
  | ofAttribute a => exact ⟨rfl, h.2⟩
  | loose token =>
    obtain ⟨kind, text⟩ := token
    obtain ⟨rfl, -, hblanks⟩ := h
    exact ⟨rfl, .inl rfl, hblanks⟩

theorem legible_append {mode : Mode} {part : Part} {rest : List Token} :
    part.LegibleIn mode ∧ Legible part.modeBehind rest →
      Legible mode (part.tokens ++ rest) := by
  rintro ⟨hpart, hrest⟩
  rcases part with (name | ⟨name, sign⟩ | ⟨name, sign, value⟩) | token
  · exact ⟨hpart, hrest⟩
  · exact ⟨⟨hpart.1, hpart.2.1⟩, ⟨rfl, hpart.2.2⟩, hrest⟩
  · exact ⟨⟨hpart.1, hpart.2.1⟩, ⟨rfl, hpart.2.2.1⟩, ⟨rfl, hpart.2.2.2⟩, hrest⟩
  · exact ⟨hpart.2, hrest⟩

theorem of_legible_append {mode : Mode} {part : Part} {rest : List Token}
    (hloose : ∀ token, part = loose token → token.kind = .tagContinuation)
    (h : Legible mode (part.tokens ++ rest)) :
    part.LegibleIn mode ∧ Legible part.modeBehind rest := by
  rcases part with (name | ⟨name, sign⟩ | ⟨name, sign, value⟩) | token
  · exact h
  · obtain ⟨hname, hsign, hrest⟩ := h
    exact ⟨⟨hname.1, hname.2, hsign.2⟩, hrest⟩
  · obtain ⟨hname, hsign, hvalue, hrest⟩ := h
    exact ⟨⟨hname.1, hname.2, hsign.2, hvalue.2⟩, hrest⟩
  · exact ⟨⟨hloose token rfl, h.1⟩, h.2⟩

end Part

/-- Every part is legible behind the one before it. -/
def LegibleParts (mode : Mode) : List Part → Prop
  | [] => True
  | part :: parts => part.LegibleIn mode ∧ LegibleParts part.modeBehind parts

theorem legible_tokensOf {mode : Mode} {parts : List Part} (h : LegibleParts mode parts) :
    Legible mode (tokensOf parts) := by
  induction parts generalizing mode with
  | nil => trivial
  | cons part parts ih =>
    rw [tokensOf_cons]
    exact Part.legible_append ⟨h.1, ih h.2⟩

theorem Regular.legibleParts {mode : Mode} {parts : List Part} (hregular : Regular parts)
    (h : Legible mode (tokensOf parts)) : LegibleParts mode parts := by
  induction parts generalizing mode with
  | nil => trivial
  | cons part parts ih =>
    rw [tokensOf_cons] at h
    obtain ⟨hpart, hparts⟩ := Part.of_legible_append
      (fun token heq => hregular token (heq ▸ List.mem_cons_self)) h
    exact ⟨hpart, ih hregular.tail hparts⟩

namespace LegibleParts

variable {mode : Mode} {parts : List Part}

theorem behindBlank (h : LegibleParts mode parts) : LegibleParts .tagContinuation parts := by
  cases parts with
  | nil => trivial
  | cons part parts => exact ⟨h.1.behindBlank, h.2⟩

theorem left {rest : List Part} (h : LegibleParts mode (parts ++ rest)) :
    LegibleParts mode parts := by
  induction parts generalizing mode with
  | nil => trivial
  | cons part parts ih => exact ⟨h.1, ih h.2⟩

/-- The first attribute was behind a blank already. -/
theorem dropWhile (h : LegibleParts mode parts) :
    LegibleParts .tagContinuation (parts.dropWhile Part.isBlank) := by
  induction parts generalizing mode with
  | nil => trivial
  | cons part parts ih =>
    by_cases hblank : part.isBlank = true
    · rw [List.dropWhile_cons_of_pos hblank]
      exact ih h.2
    · rw [List.dropWhile_cons_of_neg hblank]
      exact h.behindBlank

/-- An attribute can be removed with the blanks behind it, since it is behind a blank itself. -/
theorem remove {kept : List Part} {part : Part} (hclass : part.isClass = true)
    (h : LegibleParts mode (kept ++ part :: parts)) :
    LegibleParts mode (kept ++ parts.dropWhile Part.isBlank) := by
  induction kept generalizing mode with
  | nil =>
    cases part with
    | loose token => cases hclass
    | ofAttribute a =>
      obtain ⟨⟨rfl, -⟩, hparts⟩ := h
      exact hparts.dropWhile
  | cons first kept ih => exact ⟨h.1, ih h.2⟩

theorem stripFrom {kept : List Part} (h : LegibleParts mode (kept ++ parts)) :
    LegibleParts mode (stripFrom kept parts) := by
  fun_induction Inlining.stripFrom kept parts with
  | case1 kept => exact h.left
  | case2 kept part parts hclass hend =>
    obtain ⟨blanks, hkept⟩ := List.rdropWhile_prefix Part.isBlank kept
    have hkept' : LegibleParts mode kept := h.left
    rw [← hkept] at hkept'
    exact hkept'.left
  | case3 kept part parts hclass hend ih => exact ih (h.remove hclass)
  | case4 kept part parts hclass ih => exact ih (by simpa using h)

theorem completeFirst (h : LegibleParts mode parts) {declarations : String}
    (hquote : '"' ∉ declarations.toList) : LegibleParts mode (completeFirst declarations parts) := by
  induction parts generalizing mode with
  | nil => trivial
  | cons part parts ih =>
    obtain ⟨hpart, hparts⟩ := h
    cases part with
    | loose token => exact ⟨hpart, ih hparts⟩
    | ofAttribute a =>
      have hbehind : LegibleParts (a.withDeclarations declarations).modeBehind parts := by
        rcases a.modeBehind_withDeclarations declarations with hmode | hmode
        · rw [hmode]
          exact hparts
        · rw [hmode]
          exact hparts.behindBlank
      have ha : (Part.ofAttribute (a.withDeclarations declarations)).LegibleIn mode :=
        ⟨hpart.1, hpart.2.withDeclarations hquote⟩
      rw [Inlining.completeFirst]
      cases a.isStyle with
      | true => exact ⟨ha, hbehind⟩
      | false => exact ⟨hpart, ih hparts⟩

/-- A new `style` attribute is put behind the blank of the tag name, and has a blank of its own. -/
theorem addStyle (h : LegibleParts mode parts) {declarations : String}
    (hquote : '"' ∉ declarations.toList) :
    LegibleParts .tagContinuation
      (.ofAttribute (.assigned "style" "=" declarations) :: .loose ⟨.tagContinuation, " "⟩ ::
        parts) := by
  have hname : IsAttributeName "style".toList := by
    refine ⟨'s', "tyle".toList, rfl, ?_, ?_⟩ <;> simp [isNameChar, Text.isTagBlank]
  have hblank : ∀ c ∈ " ".toList, Text.isTagBlank c = true := by simp [Text.isTagBlank]
  exact ⟨⟨rfl, hname, rfl, hquote⟩, ⟨rfl, .inl rfl, hblank⟩, h.behindBlank⟩

end LegibleParts

/-! ## Tags -/

theorem any_isStyle_strip (parts : List Part) :
    (strip parts).any Part.isStyle = parts.any Part.isStyle := by
  have hclass : (fun a : Attribute => !a.isClass && a.isStyle) = Attribute.isStyle := by
    funext a
    cases hclass : a.isClass with
    | true => simp [Attribute.isStyle_eq_false_of_isClass hclass]
    | false => simp
  rw [any_isStyle_parts, strip, filterMap_stripFrom, List.filterMap_nil, List.nil_append,
    any_isStyle_parts, Attribute.withoutClasses, List.any_filter, hclass]

/-- A tag name with a blank at its end is legible where it was, and a part can be read behind it. -/
theorem legibleIn_separated {mode : Mode} {tag : Token} (htag : tag.isTag = true)
    (h : tag.LegibleIn mode) (hwide : tag.endsInWideBlank = false) :
    (separated tag).LegibleIn mode ∧ (separated tag).modeBehind = .tagContinuation := by
  have hblank := isTagBlank_getLast? hwide
  obtain ⟨kind, text⟩ := tag
  unfold separated
  cases hlast : text.toList.getLast?.any Text.isBlank with
  | true =>
    rw [hlast] at hblank
    refine ⟨h, ?_⟩
    cases kind <;> cases htag <;> simp [Token.modeBehind, hblank]
  | false =>
    rw [hlast] at hblank
    simp only [Bool.false_eq_true, if_false]
    have hspace : (text ++ " ").toList = text.toList ++ [' '] := by simp
    have hname (hname : IsTagName text.toList) : IsTagName (text ++ " ").toList :=
      .inr ⟨text.toList, ' ', hspace, isNameChar_of_isTagName hname hblank, rfl⟩
    cases kind <;> cases htag
    · refine ⟨⟨h.1, ?_, hname h.2.2⟩, ?_⟩
      · have hslash := h.2.1
        rw [hspace, List.head?_append]
        cases hhead : text.toList.head? <;> simp_all
      · simp [Token.modeBehind, hspace, Text.isTagBlank]
    · refine ⟨⟨h.1, hname h.2⟩, ?_⟩
      simp [Token.modeBehind, hspace, Text.isTagBlank]

/-- The attribute tokens of a legible tag are attributes and blanks. -/
theorem regular_of_legible {tag : Token} {attributes : List Token} (htag : tag.isTag = true)
    (h : Legible tag.modeBehind attributes)
    (hattributes : ∀ token ∈ attributes, token.isAttribute = true) :
    Regular (partsOf attributes) := by
  obtain ⟨kind, text⟩ := tag
  have hmode : Token.modeBehind ⟨kind, text⟩ ≠ .attributeName ∧
      Token.modeBehind ⟨kind, text⟩ ≠ .attributeEquals := by
    cases kind <;> cases htag <;> simp only [Token.modeBehind] <;> split <;> simp
  have hgrouped : GroupedAfter (some kind) attributes :=
    h.groupedAfter (fun hname => absurd hname hmode.1) fun hsign => absurd hsign hmode.2
  refine regular_partsOf hgrouped (startsPart_of_groupedAfter hgrouped ?_ ?_) hattributes
  all_goals
    intro hkind
    cases kind <;> cases htag <;> cases hkind

theorem legible_restyledParts {mode : Mode} {tag : Token} {parts : List Part}
    {declarations : String} (htag : tag.isTag = true) (hname : tag.LegibleIn mode)
    (hparts : LegibleParts tag.modeBehind parts) (hplain : PlainBlanks tag.text.toList)
    (hquote : '"' ∉ declarations.toList) :
    Legible mode (restyledName declarations parts tag ::
      tokensOf (restyledParts declarations (strip parts))) := by
  have hstrip : LegibleParts tag.modeBehind (strip parts) := LegibleParts.stripFrom hparts
  unfold restyledName restyledParts
  rw [any_isStyle_strip]
  cases parts.any Part.isStyle with
  | true => exact ⟨hname, legible_tokensOf (hstrip.completeFirst hquote)⟩
  | false =>
    cases declarations.isEmpty with
    | true => exact ⟨hname, legible_tokensOf hstrip⟩
    | false =>
      obtain ⟨hseparated, hmode⟩ := legibleIn_separated htag hname hplain.endsInWideBlank
      have hstyle := legible_tokensOf (hstrip.addStyle hquote)
      rw [← hmode] at hstyle
      exact ⟨hseparated, hstyle⟩

theorem legible_restyledTag {sheet : Css.Stylesheet} {mode : Mode} {tag : Token}
    {attributes : List Token} (htag : tag.isTag = true) (h : Legible mode (tag :: attributes))
    (hattributes : ∀ token ∈ attributes, token.isAttribute = true)
    (hplain : PlainBlanks tag.text.toList)
    (hquote : ∀ classes, '"' ∉ (declarationsOfTag sheet tag classes).toList) :
    Legible mode (restyledTag sheet tag attributes) := by
  obtain ⟨hname, hrest⟩ := h
  have hregular := regular_of_legible htag hrest hattributes
  rw [← tokensOf_partsOf attributes] at hrest
  exact legible_restyledParts htag hname (hregular.legibleParts hrest) hplain (hquote _)

/-! ## Documents -/

/-- A stream stays legible if each of its tags does. -/
theorem legible_tagwise {rewrite : Token → List Token → List Token} {mode : Mode}
    {tokens : List Token} (h : Legible mode tokens)
    (hrewrite : ∀ tag ∈ tokens, tag.isTag = true → ∀ mode attributes,
      (∀ token ∈ attributes, token.isAttribute = true) → Legible mode (tag :: attributes) →
        Legible mode (rewrite tag attributes)) :
    Legible mode (tagwise rewrite tokens) := by
  fun_induction tagwise rewrite tokens generalizing mode with
  | case1 => trivial
  | case2 token tokens htag ih =>
    obtain ⟨htoken, htokens⟩ := h
    have hopen : ¬ token.modeBehind.Outside := not_outside_of_inTag fun hkind => by
      simp [Token.isTag, hkind, Kind.isTag] at htag
    obtain ⟨hattributes, hbehind⟩ := htokens.in_tag hopen
    have htoken' := hrewrite token List.mem_cons_self htag mode (attributesOf tokens)
      (fun _ hmem => isAttribute_of_mem_attributesOf hmem) ⟨htoken, hattributes⟩
    refine htoken'.append fun other => ih (hbehind other) fun tag hmem => ?_
    exact hrewrite tag (List.mem_cons_of_mem _ ((List.dropWhile_sublist _).mem hmem))
  | case3 token tokens htag ih =>
    exact ⟨h.1, ih h.2 fun tag hmem => hrewrite tag (List.mem_cons_of_mem _ hmem)⟩

theorem legible_inject {sheet : Css.Stylesheet} {tokens : List Token} (h : Legible .start tokens)
    (hplain : Plain tokens)
    (hquote : ∀ tag classes, '"' ∉ (declarationsOfTag sheet tag classes).toList) :
    Legible .start (inject sheet tokens) := by
  rw [inject_eq_tagwise]
  refine legible_tagwise h fun tag hmem htag mode attributes hattributes htag' => ?_
  exact legible_restyledTag htag htag' hattributes (hplain tag hmem) (hquote tag)

end MailTemplate.Inlining
