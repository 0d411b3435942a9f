import MailTemplate.Proofs.Markup.Lexed

/-! # Texts of lexed streams

A lexed stream is read from a text: the texts of its tokens, with the punctuation between them that
ends one and begins the next (`hasText_of_awaits`). So the grammar of lexed streams says exactly
what the lexer makes (`exists_tokenize_eq_iff`). -/

namespace MailTemplate.Markup

namespace Lexer

/-- The lexer comes to a stream, of which it has read nothing but the character that ended the part
before it. -/
inductive Awaits : State → List Token → Prop
  | content (text : String) (rest : List Token) :
    Awaits ⟨.content, ""⟩ (⟨.content, text⟩ :: rest)
  | tagOpen (text : String) (rest : List Token) :
    Awaits ⟨.tagOpen, ""⟩ (⟨.tagOpen, text⟩ :: rest)
  | tagClose (text : String) (rest : List Token) :
    Awaits ⟨.tagClose, ""⟩ (⟨.tagClose, text⟩ :: rest)
  | attributeName {first : Char} {text : String} (head_eq : text.toList.head? = some first)
      (rest : List Token) :
    Awaits ⟨.attributeName, String.singleton first⟩ (⟨.attributeName, text⟩ :: rest)
  | attributeEquals (text : String) (rest : List Token) :
    Awaits ⟨.attributeEquals, "="⟩ (⟨.attributeEquals, text⟩ :: rest)
  | attributeValue (text : String) (rest : List Token) :
    Awaits ⟨.attributeValue, ""⟩ (⟨.attributeValue, text⟩ :: rest)
  | blanks {text : String} {rest : List Token}
      (run : SingleBlanks (blanksAt (⟨.tagContinuation, text⟩ :: rest))) :
    Awaits ⟨.tagContinuation, ""⟩ (⟨.tagContinuation, text⟩ :: rest)
  | endingBlank {first : Char} {text : String} {rest : List Token}
      (head_eq : text.toList.head? = some first)
      (run : IsRunBehind .attributeName (blanksAt (⟨.tagContinuation, text⟩ :: rest))) :
    Awaits ⟨.tagContinuation, String.singleton first⟩ (⟨.tagContinuation, text⟩ :: rest)

/-- The stream is read from some text. -/
def HasText (state : State) (stream : List Token) : Prop :=
  ∃ cs, tokens state cs = stream

theorem Reads.hasText {state next : State} {cs : List Char} {read rest : List Token}
    (h : Reads state cs read next) (hrest : HasText next rest) : HasText state (read ++ rest) := by
  obtain ⟨ds, rfl⟩ := hrest
  exact ⟨cs ++ ds, h.tokens ds⟩

section

variable {mode : Mode} {kind : Kind} {text : String} {rest : List Token}
  (hrest : ∀ {next : State}, Awaits next rest → HasText next rest)

include hrest

/-- The end of a tag ends the part that is open in it. -/
theorem hasText_closed (hkind : mode.kind? = some kind) (htag : mode.inTag = true)
    (hvalue : mode ≠ .attributeValue) (hcontent : rest.head?.map Token.kind = some .content) :
    HasText ⟨mode, text⟩ (⟨kind, text⟩ :: rest) := by
  rcases rest with _ | ⟨⟨nextKind, nextText⟩, rest⟩
  · cases hcontent
  · obtain rfl : nextKind = .content := Option.some.inj hcontent
    have hstep : State.step ⟨mode, text⟩ '>' = (⟨.content, ""⟩, some ⟨kind, text⟩) := by
      rw [State.step_closingBracket htag hvalue, State.token?, hkind, Option.map_some]
    exact (Reads.single hstep).hasText (hrest (.content nextText rest))

theorem hasText_content (hfits : (⟨.content, text⟩ : Token).Fits rest) :
    HasText ⟨.content, text⟩ (⟨.content, text⟩ :: rest) := by
  rcases rest with _ | ⟨⟨nextKind, nextText⟩, rest⟩
  · exact ⟨[], rfl⟩
  · have hread := Reads.single (State.step_openingBracket text)
    have htag : nextKind.isTag = true := hfits.next
    cases nextKind <;> cases htag
    · exact hread.hasText (hrest (.tagOpen nextText rest))
    · have hslash : State.step ⟨.tagOpen, ""⟩ '/' = (⟨.tagClose, ""⟩, none) := rfl
      exact (hread.trans (.single hslash)).hasText (hrest (.tagClose nextText rest))

theorem hasText_tag (hkind : mode.kind? = some kind) (htag : kind.isTag = true)
    (hslash : kind = .tagOpen → text.toList.head? ≠ some '/') (hname : IsTagName text.toList)
    (hfits : (⟨kind, text⟩ : Token).Fits rest) : HasText ⟨mode, ""⟩ (⟨kind, text⟩ :: rest) := by
  have hnext := hfits.next
  rcases hname with hword | ⟨word, blank, htext, hword, hblank⟩
  · have hread := Reads.tagWord hkind htag hword hslash
    rw [String.ofList_toList] at hread
    have hends : (⟨kind, text⟩ : Token).endsInBlank = false := isTagBlank_last_of_word hword
    have hinTag : mode.inTag = true := by cases mode <;> cases hkind <;> cases htag <;> rfl
    have hvalue : mode ≠ .attributeValue := by rintro rfl; cases hkind; cases htag
    refine hread.hasText ?_
    rcases rest with _ | ⟨next, rest⟩
    · exact ⟨[], by simp [tokens_nil, State.token?, hkind]⟩
    · refine hasText_closed hrest hkind hinTag hvalue (congrArg some ?_)
      cases kind <;> cases htag <;> simpa [Token.Precedes, hends] using hnext
  · obtain rfl : text = (String.ofList word).push blank := by
      rw [← String.ofList_toList (s := text), htext]
      simp
    have hslash' (hopen : kind = .tagOpen) : word.head? ≠ some '/' := by
      have hhead := hslash hopen
      cases word <;> simp_all
    have hread := (Reads.tagWord hkind htag hword hslash').trans
      (.single (State.step_blank hkind htag hblank (String.ofList word)))
    have hends : (⟨kind, (String.ofList word).push blank⟩ : Token).endsInBlank = true := by
      simp [Token.endsInBlank, hblank]
    rcases rest with _ | ⟨⟨nextKind, nextText⟩, rest⟩
    · cases hends.symm.trans (hnext htag)
    · obtain rfl : nextKind = .tagContinuation := by
        cases kind <;> cases htag <;> simpa [Token.Precedes, hends] using hnext
      have hrun := hfits.blanks (by simp [blanksAt_cons])
      cases kind <;> cases htag <;> exact hread.hasText (hrest (.blanks hrun))

/-- The last of the blanks between two parts. -/
theorem hasText_lastBlank (hlexed : Lexed rest)
    (hfits : (⟨.tagContinuation, text⟩ : Token).Fits rest) (hblanks : blanksAt rest = []) :
    HasText ⟨.tagContinuation, text⟩ (⟨.tagContinuation, text⟩ :: rest) := by
  have hnext := hfits.next
  rcases rest with _ | ⟨⟨nextKind, nextText⟩, rest⟩
  · exact ⟨[], rfl⟩
  · rcases hnext with hnext | hnext | hnext
    · obtain rfl : nextKind = .tagContinuation := hnext
      cases hblanks
    · obtain rfl : nextKind = .attributeName := hnext
      obtain ⟨⟨first, word, htext, hfirst, -⟩, -⟩ := hlexed
      obtain ⟨hblank, hend⟩ := isNameChar_iff.mp hfirst
      have hstep : State.step ⟨.tagContinuation, text⟩ first =
          (⟨.attributeName, String.singleton first⟩, some ⟨.tagContinuation, text⟩) := by
        rw [State.step_tagContinuation, if_neg hblank, if_neg hend]
      have hhead : nextText.toList.head? = some first := by
        rw [show nextText.toList = first :: word from htext, List.head?_cons]
      exact (Reads.single hstep).hasText (hrest (.attributeName hhead rest))
    · exact hasText_closed hrest rfl rfl (by simp) (congrArg some hnext)

/-- Another blank is read behind those of the token. -/
theorem hasText_moreBlanks {blank : Char} (hblank : Text.isTagBlank blank = true)
    (hrun : SingleBlanks (blanksAt rest)) (buffer : String) :
    HasText ⟨.tagContinuation, buffer⟩ (⟨.tagContinuation, buffer.push blank⟩ :: rest) := by
  have hstep : State.step ⟨.tagContinuation, buffer⟩ blank =
      (⟨.tagContinuation, ""⟩, some ⟨.tagContinuation, buffer.push blank⟩) := by
    rw [State.step_tagContinuation, if_pos hblank]
  rcases rest with _ | ⟨⟨nextKind, nextText⟩, rest⟩
  · cases hrun
  · by_cases hkind : nextKind = .tagContinuation
    · subst hkind
      exact (Reads.single hstep).hasText (hrest (.blanks hrun))
    · rw [blanksAt_eq_nil hkind] at hrun
      cases hrun

theorem hasText_blanks (hlexed : Lexed (⟨.tagContinuation, text⟩ :: rest))
    (hrun : SingleBlanks (blanksAt (⟨.tagContinuation, text⟩ :: rest))) :
    HasText ⟨.tagContinuation, ""⟩ (⟨.tagContinuation, text⟩ :: rest) := by
  obtain ⟨hspelled, hfits, hbehind⟩ := hlexed
  rw [blanksAt_cons] at hrun
  generalize hblanks : blanksAt rest = blanks at hrun
  cases hrun with
  | last => exact hasText_lastBlank hrest hbehind hfits hblanks
  | cons hlength hrun =>
    obtain ⟨blank, htext⟩ := List.length_eq_one_iff.mp hlength
    obtain rfl : text = "".push blank := String.toList_inj.mp (by simp [htext])
    exact hasText_moreBlanks hrest (hspelled blank (by simp)) (hblanks ▸ hrun) ""

theorem hasText_endingBlank {first : Char} (hlexed : Lexed (⟨.tagContinuation, text⟩ :: rest))
    (hhead : text.toList.head? = some first)
    (hrun : IsRunBehind .attributeName (blanksAt (⟨.tagContinuation, text⟩ :: rest))) :
    HasText ⟨.tagContinuation, String.singleton first⟩ (⟨.tagContinuation, text⟩ :: rest) := by
  obtain ⟨hspelled, hfits, hbehind⟩ := hlexed
  obtain ⟨_, _, hcons, hrun⟩ := hrun
  obtain ⟨rfl, rfl⟩ := List.cons.inj hcons
  obtain ⟨tail, htext⟩ := List.head?_eq_some_iff.mp hhead
  rcases hrun with ⟨hlength, hblanks⟩ | ⟨hlength, hrun⟩
  · obtain rfl : tail = [] := by
      simpa [← String.length_toList, htext] using hlength
    obtain rfl : text = String.singleton first := String.toList_inj.mp (by simp [htext])
    exact hasText_lastBlank hrest hbehind hfits hblanks
  · obtain ⟨second, rfl⟩ : ∃ second, tail = [second] := by
      rw [← List.length_eq_one_iff]
      simpa [← String.length_toList, htext] using hlength
    obtain rfl : text = (String.singleton first).push second :=
      String.toList_inj.mp (by simp [htext])
    exact hasText_moreBlanks hrest (hspelled second (by simp)) hrun _

theorem hasText_attributeName (hlexed : Lexed rest)
    (hfits : (⟨.attributeName, text⟩ : Token).Fits rest) :
    HasText ⟨.attributeName, text⟩ (⟨.attributeName, text⟩ :: rest) := by
  have hnext := hfits.next
  rcases rest with _ | ⟨⟨nextKind, nextText⟩, rest⟩
  · exact ⟨[], rfl⟩
  · rcases hnext with hnext | ⟨hnext, hne⟩ | hnext
    · obtain rfl : nextKind = .attributeEquals := hnext
      have hstep : State.step ⟨.attributeName, text⟩ '=' =
          (⟨.attributeEquals, "="⟩, some ⟨.attributeName, text⟩) := by
        simp [State.step_attributeName]
      exact (Reads.single hstep).hasText (hrest (.attributeEquals nextText rest))
    · obtain rfl : nextKind = .tagContinuation := hnext
      obtain ⟨first, tail, htail⟩ := List.exists_cons_of_ne_nil (mt String.toList_eq_nil_iff.mp hne)
      have hblank : Text.isTagBlank first = true := hlexed.1 first (by simp [htail])
      have hsign : first ≠ '=' := by
        rintro rfl
        cases hblank
      have hstep : State.step ⟨.attributeName, text⟩ first =
          (⟨.tagContinuation, String.singleton first⟩, some ⟨.attributeName, text⟩) := by
        rw [State.step_attributeName, if_neg hsign, if_pos hblank]
      have hrun := hfits.blanks (by simp [blanksAt_cons])
      have hhead : nextText.toList.head? = some first := by
        rw [show nextText.toList = first :: tail from htail, List.head?_cons]
      exact (Reads.single hstep).hasText (hrest (.endingBlank hhead hrun))
    · exact hasText_closed hrest rfl rfl (by simp) (congrArg some hnext)

theorem hasText_attributeEquals (hfits : (⟨.attributeEquals, "="⟩ : Token).Fits rest) :
    HasText ⟨.attributeEquals, "="⟩ (⟨.attributeEquals, "="⟩ :: rest) := by
  have hnext := hfits.next
  rcases rest with _ | ⟨⟨nextKind, nextText⟩, rest⟩
  · exact ⟨[], rfl⟩
  · rcases hnext with hnext | hnext
    · obtain rfl : nextKind = .attributeValue := hnext
      have hstep : State.step ⟨.attributeEquals, "="⟩ '"' =
          (⟨.attributeValue, ""⟩, some ⟨.attributeEquals, "="⟩) := by
        simp [State.step_attributeEquals]
      exact (Reads.single hstep).hasText (hrest (.attributeValue nextText rest))
    · exact hasText_closed hrest rfl rfl (by simp) (congrArg some hnext)

theorem hasText_attributeValue (hfits : (⟨.attributeValue, text⟩ : Token).Fits rest) :
    HasText ⟨.attributeValue, text⟩ (⟨.attributeValue, text⟩ :: rest) := by
  have hnext := hfits.next
  rcases rest with _ | ⟨⟨nextKind, nextText⟩, rest⟩
  · exact ⟨[], rfl⟩
  · obtain rfl : nextKind = .tagContinuation := hnext
    have hstep : State.step ⟨.attributeValue, text⟩ '"' =
        (⟨.tagContinuation, ""⟩, some ⟨.attributeValue, text⟩) := by
      simp [State.step_attributeValue]
    have hrun := hfits.blanks (by simp [blanksAt_cons])
    exact (Reads.single hstep).hasText (hrest (.blanks hrun))

end

theorem hasText_of_awaits {state : State} {stream : List Token} (h : Awaits state stream)
    (hlexed : Lexed stream) : HasText state stream := by
  induction stream generalizing state with
  | nil => cases h
  | cons token rest ih =>
    -- a token is read up to the character that ends it; then the lexer awaits the rest
    have hrest {next : State} (hnext : Awaits next rest) : HasText next rest := ih hnext hlexed.2.2
    cases h with
    | content text =>
      obtain ⟨htext, hfits, -⟩ := hlexed
      exact (Reads.wholeContent htext).hasText (hasText_content hrest hfits)
    | tagOpen text =>
      obtain ⟨⟨hslash, hname⟩, hfits, -⟩ := hlexed
      exact hasText_tag hrest rfl rfl (fun _ => hslash) hname hfits
    | tagClose text =>
      obtain ⟨hname, hfits, -⟩ := hlexed
      exact hasText_tag hrest rfl rfl nofun hname hfits
    | @attributeName first text hhead =>
      obtain ⟨⟨first', word, htext, -, hword⟩, hfits, hbehind⟩ := hlexed
      have htext : text.toList = first' :: word := htext
      obtain rfl : first' = first := by simpa [htext] using hhead
      have hread := Reads.attributeName hword (String.singleton first')
      rw [show String.singleton first' ++ String.ofList word = text from
        String.toList_inj.mp (by simp [htext])] at hread
      exact hread.hasText (hasText_attributeName hrest hbehind hfits)
    | attributeEquals text =>
      obtain ⟨htext, hfits, -⟩ := hlexed
      obtain rfl : text = "=" := htext
      exact hasText_attributeEquals hrest hfits
    | attributeValue text =>
      obtain ⟨htext, hfits, -⟩ := hlexed
      exact (Reads.wholeValue htext).hasText (hasText_attributeValue hrest hfits)
    | blanks hrun => exact hasText_blanks hrest hlexed hrun
    | endingBlank hhead hrun => exact hasText_endingBlank hrest hlexed hhead hrun

theorem hasText_initial {stream : List Token} (hbegins : Begins stream) (hlexed : Lexed stream) :
    HasText .initial stream := by
  rcases stream with _ | ⟨⟨kind, text⟩, rest⟩
  · exact ⟨[], rfl⟩
  · have hopen : State.initial.step '<' = (⟨.tagOpen, ""⟩, none) := rfl
    rcases hbegins _ rfl with htag | ⟨hcontent, hne⟩
    · have htag : kind.isTag = true := htag
      cases kind <;> cases htag
      · exact (Reads.single hopen).hasText (hasText_of_awaits (.tagOpen text rest) hlexed)
      · have hslash : State.step ⟨.tagOpen, ""⟩ '/' = (⟨.tagClose, ""⟩, none) := rfl
        exact ((Reads.single hopen).trans (.single hslash)).hasText
          (hasText_of_awaits (.tagClose text rest) hlexed)
    · obtain rfl : kind = .content := hcontent
      obtain ⟨htext, hfits, hbehind⟩ := hlexed
      obtain ⟨first, word, hcons⟩ :=
        List.exists_cons_of_ne_nil (mt String.toList_eq_nil_iff.mp hne)
      have htext : '<' ∉ first :: word := hcons ▸ htext
      obtain ⟨hfirst, hword⟩ := List.ne_and_not_mem_of_not_mem_cons htext
      have hstep : State.initial.step first = (⟨.content, String.singleton first⟩, none) := by
        rw [State.initial, State.step_start, if_neg (Ne.symm hfirst)]
        rfl
      have hread := (Reads.content hword (String.singleton first)).cons hstep
      rw [show String.singleton first ++ String.ofList word = text from
        String.toList_inj.mp (by simp [hcons])] at hread
      exact hread.hasText
        (hasText_content (fun hawaits => hasText_of_awaits hawaits hbehind) hfits)

end Lexer

open Lexer

/-- Exactly the lexed streams that begin as documents do are those that the lexer makes. -/
theorem exists_tokenize_eq_iff (stream : List Token) :
    (∃ text, tokenize text = stream) ↔ Begins stream ∧ Lexed stream := by
  constructor
  · rintro ⟨text, rfl⟩
    exact ⟨begins_tokenize text, lexed_tokenize text⟩
  · rintro ⟨hbegins, hlexed⟩
    obtain ⟨cs, hcs⟩ := hasText_initial hbegins hlexed
    exact ⟨String.ofList cs, by rw [tokenize, String.toList_ofList, hcs]⟩

end MailTemplate.Markup
