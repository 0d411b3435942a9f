import MailTemplate.Markup.Writer
import MailTemplate.Proofs.Markup.Legible

/-! # The text of a token, written and read

Written text is a run of token texts, each with the punctuation in front of it
(`toList_writeFrom`). Below are the lexer's moves over the text of each kind of token
(`Reads`). -/

namespace MailTemplate.Markup

/-- What is written for a token: its text, and the punctuation between the text before it and its
own. Content closes the tag that it stands in. -/
def textIn (inTag : Bool) (token : Token) : List Char :=
  match token.kind with
  | .tagOpen => '<' :: token.text.toList
  | .tagClose => '<' :: '/' :: token.text.toList
  | .content => (if inTag then ['>'] else []) ++ token.text.toList
  | .attributeValue => '"' :: token.text.toList ++ ['"']
  | .tagContinuation | .attributeName | .attributeEquals => token.text.toList

def writtenIn (inTag : Bool) : List Token → List Char
  | [] => []
  | token :: tokens => textIn inTag token ++ writtenIn (token.kind != .content) tokens

/-- A writer closes a tag without attributes before it comes to the content behind it. -/
def closedBefore (before : Option Kind) (tokens : List Token) : Bool :=
  before.any Kind.isTag && tokens.head?.map Token.kind == some .content

theorem closedBefore_append_writeFrom (before : Option Kind) (tokens : List Token) :
    (if closedBefore before tokens then ['>'] else []) ++
        (writeFrom Token.text before tokens).toList =
      writtenIn (before.any (· != .content)) tokens := by
  induction tokens generalizing before with
  | nil => simp [closedBefore, writeFrom, writtenIn]
  | cons token tokens ih =>
    have hrest := ih (some token.kind)
    rw [Option.any_some] at hrest
    rw [writtenIn, writeFrom, ← hrest]
    obtain ⟨kind, text⟩ := token
    cases kind with
    | tagOpen | tagClose =>
      by_cases hhead : tokens.head?.map Token.kind = some .content <;>
        simp [closedBefore, punctuation, textIn, Kind.isTag, hhead]
    | content =>
      cases before with
      | none => simp [closedBefore, punctuation, textIn, Kind.isTag]
      | some kind =>
        cases kind <;> simp [closedBefore, punctuation, textIn, Kind.isTag, Kind.isAttribute]
    | attributeValue | tagContinuation | attributeName | attributeEquals =>
      simp [closedBefore, punctuation, textIn, Kind.isTag]

theorem toList_writeFrom (tokens : List Token) :
    (writeFrom Token.text none tokens).toList = writtenIn false tokens := by
  simpa [closedBefore] using closedBefore_append_writeFrom none tokens

namespace Lexer

def Mode.inTag (mode : Mode) : Bool :=
  mode != .start && mode != .content

theorem recorded_append (state : State) (cs ds : List Char) :
    recorded state (cs ++ ds) = recorded state cs ++ recorded (state.after cs) ds := by
  induction cs generalizing state with
  | nil => rfl
  | cons c cs ih => rw [List.cons_append, recorded, ih, recorded, State.after_cons, List.append_assoc]

/-- The start of a tag. -/
theorem State.step_openingBracket (buffer : String) :
    State.step ⟨.content, buffer⟩ '<' = (⟨.tagOpen, ""⟩, some ⟨.content, buffer⟩) := by
  simp [step_content]

/-- The end of a tag, wherever it is open. -/
theorem State.step_closingBracket {mode : Mode} (h : mode.inTag = true)
    (hvalue : mode ≠ .attributeValue) (buffer : String) :
    State.step ⟨mode, buffer⟩ '>' = (⟨.content, ""⟩, State.token? ⟨mode, buffer⟩) := by
  cases mode with
  | start | content => cases h
  | attributeValue => exact absurd rfl hvalue
  | tagOpen => simp [step_tagOpen, Text.isTagBlank, token?, Mode.kind?]
  | tagClose => simp [step_tagClose, Text.isTagBlank, token?, Mode.kind?]
  | tagContinuation => simp [step_tagContinuation, Text.isTagBlank, token?, Mode.kind?]
  | attributeName => simp [step_attributeName, Text.isTagBlank, token?, Mode.kind?]
  | attributeEquals => simp [step_attributeEquals, token?, Mode.kind?]

/-- The blank that ends a tag name. -/
theorem State.step_blank {mode : Mode} {kind : Kind} (hkind : mode.kind? = some kind)
    (htag : kind.isTag = true) {c : Char} (h : Text.isTagBlank c = true) (buffer : String) :
    State.step ⟨mode, buffer⟩ c = (⟨.tagContinuation, ""⟩, some ⟨kind, buffer.push c⟩) := by
  have hslash : c ≠ '/' := by
    rintro rfl
    cases h
  cases mode <;> cases hkind <;> cases htag
  · rw [step_tagOpen, if_neg (fun hc => hslash hc.1), if_pos h]
  · rw [step_tagClose, if_pos h]

/-- Over a text the lexer goes from one state to another and records some tokens. -/
structure Reads (state : State) (cs : List Char) (read : List Token) (next : State) : Prop where
  recorded : recorded state cs = read
  after : state.after cs = next

namespace Reads

variable {state next last : State} {cs ds : List Char} {read more : List Token}

theorem refl (state : State) : Reads state [] [] state :=
  ⟨rfl, rfl⟩

theorem trans (h : Reads state cs read next) (hnext : Reads next ds more last) :
    Reads state (cs ++ ds) (read ++ more) last where
  recorded := by rw [recorded_append, h.recorded, h.after, hnext.recorded]
  after := by rw [State.after_append, h.after, hnext.after]

theorem cons {c : Char} {ended : Option Token} (hstep : state.step c = (next, ended))
    (h : Reads next cs read last) : Reads state (c :: cs) (ended.toList ++ read) last where
  recorded := by rw [Lexer.recorded, hstep, h.recorded]
  after := by rw [State.after_cons, hstep, h.after]

theorem single {c : Char} {ended : Option Token} (hstep : state.step c = (next, ended)) :
    Reads state [c] ended.toList next := by
  simpa using cons hstep (refl next)

theorem tokens (h : Reads state cs read next) (rest : List Char) :
    tokens state (cs ++ rest) = read ++ Lexer.tokens next rest := by
  rw [tokens_append, h.recorded, h.after]

theorem push_append_ofList (buffer : String) (c : Char) (cs : List Char) :
    buffer.push c ++ String.ofList cs = buffer ++ String.ofList (c :: cs) := by
  rw [String.ofList_cons, ← String.append_assoc, String.push_eq_append]

/-- What a mode keeps becomes a part of the text. -/
theorem word {mode : Mode}
    (h : ∀ buffer, ∀ c ∈ cs, State.step ⟨mode, buffer⟩ c = (⟨mode, buffer.push c⟩, none))
    (buffer : String) : Reads ⟨mode, buffer⟩ cs [] ⟨mode, buffer ++ String.ofList cs⟩ := by
  induction cs generalizing buffer with
  | nil => simpa using refl ⟨mode, buffer⟩
  | cons c cs ih =>
    have hrest := ih (fun buffer d hd => h buffer d (List.mem_cons_of_mem _ hd)) (buffer.push c)
    rw [push_append_ofList] at hrest
    exact cons (h buffer c List.mem_cons_self) hrest

theorem content (h : '<' ∉ cs) (buffer : String) :
    Reads ⟨.content, buffer⟩ cs [] ⟨.content, buffer ++ String.ofList cs⟩ :=
  word (fun buffer c hc => by
    rw [State.step_content, if_neg (ne_of_mem_of_not_mem hc h)]) buffer

theorem value (h : '"' ∉ cs) (buffer : String) :
    Reads ⟨.attributeValue, buffer⟩ cs [] ⟨.attributeValue, buffer ++ String.ofList cs⟩ :=
  word (fun buffer c hc => by
    rw [State.step_attributeValue, if_neg (ne_of_mem_of_not_mem hc h)]) buffer

theorem wholeContent {text : String} (h : '<' ∉ text.toList) :
    Reads ⟨.content, ""⟩ text.toList [] ⟨.content, text⟩ := by
  simpa using content h ""

theorem wholeValue {text : String} (h : '"' ∉ text.toList) :
    Reads ⟨.attributeValue, ""⟩ text.toList [] ⟨.attributeValue, text⟩ := by
  simpa using value h ""

theorem attributeName (h : ∀ c ∈ cs, isNameChar c = true ∧ c ≠ '=') (buffer : String) :
    Reads ⟨.attributeName, buffer⟩ cs [] ⟨.attributeName, buffer ++ String.ofList cs⟩ := by
  refine word (fun buffer c hc => ?_) buffer
  obtain ⟨hname, hsign⟩ := h c hc
  obtain ⟨hblank, hend⟩ := isNameChar_iff.mp hname
  rw [State.step_attributeName, if_neg hsign, if_neg hblank, if_neg hend]

theorem tagClose (h : ∀ c ∈ cs, isNameChar c = true) (buffer : String) :
    Reads ⟨.tagClose, buffer⟩ cs [] ⟨.tagClose, buffer ++ String.ofList cs⟩ := by
  refine word (fun buffer c hc => ?_) buffer
  obtain ⟨hblank, hend⟩ := isNameChar_iff.mp (h c hc)
  rw [State.step_tagClose, if_neg hblank, if_neg hend]

/-- A slash is a part of a tag name but for its start. -/
theorem tagOpen {buffer : String} (h : ∀ c ∈ cs, isNameChar c = true)
    (hslash : (buffer.toList ++ cs).head? ≠ some '/') :
    Reads ⟨.tagOpen, buffer⟩ cs [] ⟨.tagOpen, buffer ++ String.ofList cs⟩ := by
  induction cs generalizing buffer with
  | nil => simpa using refl ⟨.tagOpen, buffer⟩
  | cons c cs ih =>
    obtain ⟨hc, hcs⟩ := List.forall_mem_cons.mp h
    obtain ⟨hblank, hend⟩ := isNameChar_iff.mp hc
    have hkept : ¬ (c = '/' ∧ buffer = "") := by
      rintro ⟨rfl, rfl⟩
      exact hslash rfl
    have hstep : State.step ⟨.tagOpen, buffer⟩ c = (⟨.tagOpen, buffer.push c⟩, none) := by
      rw [State.step_tagOpen, if_neg hkept, if_neg hblank, if_neg hend]
    have hrest : Reads ⟨.tagOpen, buffer.push c⟩ cs [] ⟨.tagOpen, buffer.push c ++ String.ofList cs⟩ :=
      ih hcs (by simpa using hslash)
    rw [push_append_ofList] at hrest
    exact cons hstep hrest

/-- A tag name up to the blank that ends it. -/
theorem tagWord {mode : Mode} {kind : Kind} (hkind : mode.kind? = some kind)
    (htag : kind.isTag = true) (h : ∀ c ∈ cs, isNameChar c = true)
    (hslash : kind = .tagOpen → cs.head? ≠ some '/') :
    Reads ⟨mode, ""⟩ cs [] ⟨mode, String.ofList cs⟩ := by
  have hempty : "" ++ String.ofList cs = String.ofList cs := by simp
  cases mode <;> cases hkind <;> cases htag
  · have hread : Reads ⟨.tagOpen, ""⟩ cs [] _ := tagOpen h (hslash rfl)
    rwa [hempty] at hread
  · have hread := tagClose h ""
    rwa [hempty] at hread

/-- A closing tag ends content. -/
theorem closingTag {name : String} (h : ∀ c ∈ name.toList, isNameChar c = true) (text : String) :
    Reads ⟨.content, text⟩ ("</" ++ name ++ ">").toList [⟨.content, text⟩, ⟨.tagClose, name⟩]
      ⟨.content, ""⟩ := by
  have hslash : State.step ⟨.tagOpen, ""⟩ '/' = (⟨.tagClose, ""⟩, none) := by
    simp [State.step_tagOpen]
  have hname : Reads ⟨.tagClose, ""⟩ name.toList [] ⟨.tagClose, name⟩ := by
    simpa using tagWord (show Mode.tagClose.kind? = some .tagClose from rfl) rfl h nofun
  have hend : State.step ⟨.tagClose, name⟩ '>' = (⟨.content, ""⟩, some ⟨.tagClose, name⟩) :=
    State.step_closingBracket rfl (by decide) name
  have htext : ("</" ++ name ++ ">").toList = '<' :: '/' :: (name.toList ++ ['>']) := by
    simp
  rw [htext]
  exact cons (State.step_openingBracket text) (cons hslash (hname.trans (single hend)))

/-- Blanks between the parts of a tag are recorded one by one. -/
theorem blanks (h : ∀ c ∈ cs, Text.isTagBlank c = true) (buffer : String) :
    ∃ read last, Reads ⟨.tagContinuation, buffer⟩ cs read ⟨.tagContinuation, last⟩ ∧
      ∀ token ∈ read, token.kind = .tagContinuation := by
  induction cs generalizing buffer with
  | nil => exact ⟨[], buffer, refl _, by simp⟩
  | cons c cs ih =>
    obtain ⟨hc, hcs⟩ := List.forall_mem_cons.mp h
    obtain ⟨read, last, hread, hkinds⟩ := ih hcs ""
    have hstep : State.step ⟨.tagContinuation, buffer⟩ c =
        (⟨.tagContinuation, ""⟩, some ⟨.tagContinuation, buffer.push c⟩) := by
      rw [State.step_tagContinuation, if_pos hc]
    exact ⟨_, last, cons hstep hread, List.forall_mem_cons.mpr ⟨rfl, hkinds⟩⟩

end Reads

end Lexer

end MailTemplate.Markup
