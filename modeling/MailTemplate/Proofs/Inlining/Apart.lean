import MailTemplate.Proofs.Inlining.Injected
import MailTemplate.Proofs.Inlining.LegibleTags
import MailTemplate.Proofs.Inlining.Rereading
import MailTemplate.Proofs.Markup.Lexed

/-! # New attributes behind tag names

A new `style` attribute is kept apart from the tag name by the white space at the end of the name, or
by a space that is put there. The white space of Unicode is wider than the blanks of a tag: a name
that ends in some of the other white space goes on in the attribute, and only such a name does
(`inject_newStyle`). -/

namespace MailTemplate.Inlining

open Markup Lexer

/-- A tag that gets a `style` attribute of its own: there is something to declare, and no such
attribute yet. -/
structure GetsStyle (sheet : Css.Stylesheet) (entry : Entry) : Prop where
  missing : (attributesIn entry.attributes).any Attribute.isStyle = false
  declared : declarationsOfEntry sheet entry ≠ ""

/-- A tag before and after it has got a `style` attribute, and what is read of it behind any
content, up to the `=` of this attribute. -/
structure NewStyle (sheet : Css.Stylesheet) (before after : Entry) : Prop where
  opening : after.head.kind = .tagOpen
  group : ∃ rest, after.attributes = styleGroup (declarationsOfEntry sheet before) ++ rest
  blank : after.head.endsInBlank = !before.head.endsInWideBlank
  apart : before.head.endsInWideBlank = false → ∀ content,
    Reads ⟨.content, content⟩ (writtenIn false (after.tokens.take 3))
      [⟨.content, content⟩, after.head, ⟨.tagContinuation, ""⟩, ⟨.attributeName, "style"⟩]
      ⟨.attributeEquals, "="⟩
  /-- The tag name goes on. -/
  fused : before.head.endsInWideBlank = true → ∀ content,
    Reads ⟨.content, content⟩ (writtenIn false (after.tokens.take 3)) [⟨.content, content⟩]
      ⟨.tagOpen, before.head.text ++ "style="⟩

/-! ## Names with a blank at their end -/

theorem endsInBlank_separated (tag : Token) :
    (separated tag).endsInBlank = !tag.endsInWideBlank := by
  unfold separated Token.endsInBlank Token.endsInWideBlank
  cases hlast : tag.text.toList.getLast? with
  | none => simp [Text.isTagBlank]
  | some c =>
    cases hblank : Text.isBlank c with
    | true => simp [hlast, hblank]
    | false => simp [hblank, Text.isTagBlank]

theorem separated_of_wide {tag : Token} (h : tag.endsInWideBlank = true) :
    separated tag = tag := by
  unfold Token.endsInWideBlank at h
  cases hlast : tag.text.toList.getLast? with
  | none =>
    rw [hlast] at h
    cases h
  | some c =>
    rw [hlast, Option.any_some, Bool.and_eq_true] at h
    rw [separated, hlast, Option.any_some, if_pos h.1]

/-- A tag name that ends in a blank is a word before this blank. -/
theorem exists_word_of_endsInBlank {tag : Token} (hname : IsTagName tag.text.toList)
    (h : tag.endsInBlank = true) :
    ∃ word blank, tag.text.toList = word ++ [blank] ∧ (∀ c ∈ word, isNameChar c = true) ∧
      Text.isTagBlank blank = true := by
  rcases hname with hword | hword
  · rw [Token.endsInBlank, isTagBlank_last_of_word hword] at h
    cases h
  · exact hword

/-! ## What is read -/

theorem reads_style_apart :
    Reads ⟨.tagContinuation, ""⟩ "style=".toList
      [⟨.tagContinuation, ""⟩, ⟨.attributeName, "style"⟩] ⟨.attributeEquals, "="⟩ :=
  ⟨by decide, by decide⟩

/-- The attribute is read behind a name that ends in a blank. -/
theorem reads_tag_apart {tag : Token} (hkind : tag.kind = .tagOpen)
    (hname : tag.LegibleIn .content) (hblank : tag.endsInBlank = true) (content : String) :
    Reads ⟨.content, content⟩ (textIn false tag ++ "style=".toList)
      [⟨.content, content⟩, tag, ⟨.tagContinuation, ""⟩, ⟨.attributeName, "style"⟩]
      ⟨.attributeEquals, "="⟩ := by
  obtain ⟨kind, text⟩ := tag
  obtain rfl : kind = .tagOpen := hkind
  obtain ⟨-, hslash, hname⟩ := hname
  obtain ⟨word, blank, htext, hword, hends⟩ := exists_word_of_endsInBlank hname hblank
  obtain rfl : text = String.ofList (word ++ [blank]) := by rw [← htext, String.ofList_toList]
  have hopen : Mode.tagOpen.kind? = some .tagOpen := rfl
  have hhead : word.head? ≠ some '/' := by
    intro hhead
    exact hslash (by rw [htext, List.head?_append, hhead]; rfl)
  have hend := Reads.single (State.step_blank hopen rfl hends (String.ofList word))
  have hread := ((reads_tagWord hopen rfl hword (fun _ => hhead) content).trans hend).trans
    reads_style_apart
  simpa [textIn] using hread

/-- The attribute becomes a part of a name without a blank at its end. -/
theorem reads_tag_fused {tag : Token} (hkind : tag.kind = .tagOpen)
    (hname : tag.LegibleIn .content) (hblank : tag.endsInBlank = false) (hempty : tag.text ≠ "")
    (content : String) :
    Reads ⟨.content, content⟩ (textIn false tag ++ "style=".toList) [⟨.content, content⟩]
      ⟨.tagOpen, tag.text ++ "style="⟩ := by
  obtain ⟨kind, text⟩ := tag
  obtain rfl : kind = .tagOpen := hkind
  obtain ⟨-, hslash, hname⟩ := hname
  have hword := isNameChar_of_isTagName hname hblank
  have hhead : (text.toList ++ "style=".toList).head? ≠ some '/' := by
    rw [List.head?_append_of_ne_nil _ (mt String.toList_eq_nil_iff.mp hempty)]
    exact hslash
  have hopen : Mode.tagOpen.kind? = some .tagOpen := rfl
  have htag := reads_tagWord hopen rfl hword (fun _ => hslash) content
  have hattribute : ∀ c ∈ "style=".toList, isNameChar c = true := by
    simp [isNameChar, Text.isTagBlank]
  have hstyle : Reads ⟨.tagOpen, text⟩ "style=".toList [] _ := Reads.tagOpen hattribute hhead
  rw [String.ofList_toList] at htag hstyle
  exact htag.trans hstyle

/-! ## Tags -/

variable {sheet : Css.Stylesheet} {entry : Entry}

theorem GetsStyle.kind_eq (h : GetsStyle sheet entry) : entry.head.kind = .tagOpen := by
  by_contra hkind
  exact h.declared (by simp [declarationsOfEntry, declarationsOfTag, hkind])

theorem GetsStyle.restyledEntry_eq (h : GetsStyle sheet entry) :
    restyledEntry sheet entry =
      ⟨separated entry.head, styleGroup (declarationsOfEntry sheet entry) ++
        tokensOf (strip (partsOf entry.attributes))⟩ := by
  have htag : entry.head.isTag = true := by
    rw [Token.isTag, h.kind_eq]
    rfl
  have hmissing : (partsOf entry.attributes).any Part.isStyle = false := by
    rw [any_isStyle_parts]
    exact h.missing
  have hdeclared : (declarationsOfEntry sheet entry).isEmpty = false := by
    simpa using h.declared
  unfold declarationsOfEntry at hdeclared
  simp only [restyledEntry, if_pos htag, restyledName, restyledParts, any_isStyle_strip, hmissing,
    hdeclared, Bool.false_eq_true, if_false]
  rfl

theorem head_restyledEntry (h : ¬ GetsStyle sheet entry) :
    (restyledEntry sheet entry).head = entry.head := by
  have hname : restyledName (declarationsOfEntry sheet entry) (partsOf entry.attributes)
      entry.head = entry.head := by
    unfold restyledName
    split
    · rfl
    · next hmissing =>
      split
      · rfl
      · next hdeclared =>
        refine absurd ⟨?_, fun hempty => hdeclared ?_⟩ h
        · rw [attributesIn, ← any_isStyle_parts]
          simpa using hmissing
        · rw [hempty]
          rfl
  unfold restyledEntry
  split
  · exact hname
  · rfl

/-- What is written of a tag up to the `=` of a new attribute. -/
theorem writtenIn_styleGroup {tag : Token} (h : tag.kind = .tagOpen) (declarations : String)
    (rest : List Token) :
    writtenIn false ((⟨tag, styleGroup declarations ++ rest⟩ : Entry).tokens.take 3) =
      textIn false tag ++ "style=".toList := by
  obtain ⟨kind, text⟩ := tag
  obtain rfl : kind = .tagOpen := h
  simp [Entry.tokens, styleGroup, writtenIn, textIn]

theorem newStyle_restyledEntry (hspelled : entry.head.Spelled) (h : GetsStyle sheet entry) :
    NewStyle sheet entry (restyledEntry sheet entry) := by
  have hkind := h.kind_eq
  have htag : entry.head.isTag = true := by
    rw [Token.isTag, hkind]
    rfl
  have hseparated : (separated entry.head).kind = .tagOpen := by
    unfold separated
    split <;> exact hkind
  have hname : entry.head.LegibleIn .content := by
    unfold Token.LegibleIn
    unfold Token.Spelled at hspelled
    rw [hkind] at hspelled ⊢
    exact ⟨.inr rfl, hspelled⟩
  have hwritten := writtenIn_styleGroup hseparated (declarationsOfEntry sheet entry)
    (tokensOf (strip (partsOf entry.attributes)))
  have hblank := endsInBlank_separated entry.head
  rw [h.restyledEntry_eq]
  refine ⟨hseparated, ⟨_, rfl⟩, hblank, fun hwide content => ?_, fun hwide content => ?_⟩
  · have happart := (legibleIn_separated htag hname hwide).1
    rw [hwritten]
    exact reads_tag_apart hseparated happart (by rw [hblank, hwide]; rfl) content
  · rw [separated_of_wide hwide] at hwritten hblank ⊢
    have hempty : entry.head.text ≠ "" := by
      intro hempty
      rw [Token.endsInWideBlank, hempty] at hwide
      cases hwide
    rw [hwritten]
    exact reads_tag_fused hkind hname (by rw [hblank, hwide]; rfl) hempty content

/-! ## Documents -/

/-- In the document of a text, the tags that get a `style` attribute of their own have its tokens
behind their names, and their names end in a blank of a tag unless other white space ends them. No
other name of a tag is changed. -/
theorem inject_newStyle (sheet : Css.Stylesheet) (text : String) :
    List.Forall₂
      (fun before after => (GetsStyle sheet before → NewStyle sheet before after) ∧
        (¬ GetsStyle sheet before → after.head = before.head))
      (entries (tokenize text)) (entries (inject sheet (tokenize text))) := by
  rw [entries_inject, List.forall₂_map_right_iff, List.forall₂_same]
  intro entry hentry
  refine ⟨newStyle_restyledEntry ?_, head_restyledEntry⟩
  have hspelled := (legible_tokenize text).forall_spelled
  exact (forall_iff_entries.mp hspelled).2 entry hentry entry.head List.mem_cons_self

theorem inject_newStyle_paragraph :
    ∃ after behind,
      entries (inject (.parse "p\x7ba:1\x7d") (tokenize "<p>x</p>")) = after :: behind ∧
        after.head.endsInBlank = true ∧
        Reads ⟨.content, ""⟩ (writtenIn false (after.tokens.take 3))
          [⟨.content, ""⟩, after.head, ⟨.tagContinuation, ""⟩, ⟨.attributeName, "style"⟩]
          ⟨.attributeEquals, "="⟩ := by
  have h := inject_newStyle (.parse "p\x7ba:1\x7d") "<p>x</p>"
  have hentries : entries (tokenize "<p>x</p>") =
      [⟨⟨.tagOpen, "p"⟩, []⟩, ⟨⟨.content, "x"⟩, []⟩, ⟨⟨.tagClose, "p"⟩, []⟩,
        ⟨⟨.content, ""⟩, []⟩] := by
    decide +kernel
  rw [hentries] at h
  obtain ⟨after, behind, hfirst, -, heq⟩ := List.forall₂_cons_left_iff.mp h
  have hnew := hfirst.1 ⟨by decide +kernel, by decide +kernel⟩
  exact ⟨after, behind, heq, hnew.blank, hnew.apart rfl ""⟩

/-- A paragraph whose name ends in a no-break space. -/
def wideParagraph : String :=
  "<p\u00a0>x</p>"

def wideEntry : Entry :=
  ⟨⟨.tagOpen, "p\u00a0"⟩, []⟩

/-- A new `style` attribute is not always kept apart: rules match a name without the white space
around it, so this paragraph gets one. -/
theorem not_endsInBlank_inject :
    ¬ ∀ (sheet : Css.Stylesheet) (text : String),
      List.Forall₂ (fun before after => GetsStyle sheet before → after.head.endsInBlank = true)
        (entries (tokenize text)) (entries (inject sheet (tokenize text))) := by
  intro h
  have hparagraph := h (.parse "p\x7ba:1\x7d") wideParagraph
  have hentries : (entries (tokenize wideParagraph)).head? = some wideEntry := by decide +kernel
  have hstyle : GetsStyle (.parse "p\x7ba:1\x7d") wideEntry :=
    ⟨by decide +kernel, by decide +kernel⟩
  rw [entries_inject, List.forall₂_map_right_iff, List.forall₂_same] at hparagraph
  have hblank := hparagraph wideEntry (List.mem_of_head? hentries) hstyle
  rw [hstyle.restyledEntry_eq, endsInBlank_separated] at hblank
  exact absurd hblank (by decide)

end MailTemplate.Inlining
