import MailTemplate.Inlining.StyleBlocks
import MailTemplate.Proofs.Markup.Reading

/-! # Streams of whole attributes

In a grouped stream an `=` stands only behind the name of an attribute, and a value only behind an
`=`. The lexer makes no other streams (`grouped_tokenize`), and taking style blocks out of one
leaves it grouped (`Grouped.collectStyleBlocks`). -/

namespace MailTemplate.Markup

/-- A stream behind a token of kind `before`, in which every `=` follows a name at once, and every
value an `=`. -/
def GroupedAfter (before : Option Kind) : List Token → Prop
  | [] => True
  | token :: tokens =>
    (token.kind = .attributeEquals → before = some .attributeName) ∧
      (token.kind = .attributeValue → before = some .attributeEquals) ∧
      GroupedAfter (some token.kind) tokens

def Grouped (tokens : List Token) : Prop :=
  GroupedAfter none tokens

instance decidableGroupedAfter :
    (before : Option Kind) → (tokens : List Token) → Decidable (GroupedAfter before tokens)
  | _, [] => isTrue trivial
  | before, token :: tokens =>
    have := decidableGroupedAfter (some token.kind) tokens
    inferInstanceAs (Decidable ((token.kind = .attributeEquals → before = some .attributeName) ∧
      (token.kind = .attributeValue → before = some .attributeEquals) ∧
      GroupedAfter (some token.kind) tokens))

instance (tokens : List Token) : Decidable (Grouped tokens) :=
  decidableGroupedAfter none tokens

/-- A token that is neither an `=` nor a value may stand anywhere. -/
theorem groupedAfter_cons {token : Token} {tokens : List Token} (before : Option Kind)
    (hsign : token.kind ≠ .attributeEquals) (hvalue : token.kind ≠ .attributeValue) :
    GroupedAfter before (token :: tokens) ↔ GroupedAfter (some token.kind) tokens := by
  simp [GroupedAfter, hsign, hvalue]

namespace Lexer

/-- What has been recorded when the lexer is in a state: an `=` is read behind a name, and a value
behind an `=`. -/
def Mode.Follows (before : Option Kind) : Mode → Prop
  | .attributeEquals => before = some .attributeName
  | .attributeValue => before = some .attributeEquals
  | _ => True

/-- The open part can follow what was recorded before it as long as it is open. -/
theorem Mode.Follows.of_none {state : State} {before : Option Kind}
    (h : state.mode.Follows before) {c : Char} (hstep : (state.step c).2 = none) :
    (state.step c).1.mode.Follows before := by
  rcases State.mode_of_step hstep with hmode | ⟨-, hmode | hmode⟩ | ⟨-, hmode⟩
  · rw [hmode]
    exact h
  all_goals
    rw [hmode]
    trivial

/-- The part after it can follow what it is recorded as. -/
theorem Mode.Follows.of_some {state : State} {c : Char} {token : Token}
    (hstep : (state.step c).2 = some token) :
    (state.step c).1.mode.Follows (some token.kind) := by
  have hkind := State.kind_of_step hstep
  obtain ⟨mode, buffer⟩ := state
  cases mode <;> simp only [State.step, State.stepTagName, State.enter, State.keep,
    Mode.kind?] at hstep hkind ⊢ <;> split_ifs at hstep ⊢ <;> simp_all [Mode.Follows]

theorem Mode.Follows.groupedAfter {mode : Mode} {before : Option Kind} (h : mode.Follows before)
    {token : Token} (hkind : mode.kind? = some token.kind) {rest : List Token}
    (hrest : GroupedAfter (some token.kind) rest) : GroupedAfter before (token :: rest) := by
  refine ⟨fun hsign => ?_, fun hvalue => ?_, hrest⟩
  · rw [hsign] at hkind
    cases mode <;> cases hkind
    exact h
  · rw [hvalue] at hkind
    cases mode <;> cases hkind
    exact h

theorem groupedAfter_tokens {state : State} {before : Option Kind}
    (h : state.mode.Follows before) (cs : List Char) :
    GroupedAfter before (tokens state cs) := by
  induction cs generalizing state before with
  | nil =>
    rw [tokens_nil, State.token?]
    cases hkind : state.mode.kind? with
    | none => trivial
    | some kind => exact h.groupedAfter hkind trivial
  | cons c cs ih =>
    rw [tokens_cons]
    cases hstep : (state.step c).2 with
    | none => exact ih (h.of_none hstep)
    | some token => exact h.groupedAfter (State.kind_of_step hstep) (ih (.of_some hstep))

end Lexer

theorem grouped_tokenize (text : String) : Grouped (tokenize text) :=
  have hfollows : Lexer.State.initial.mode.Follows none := trivial
  Lexer.groupedAfter_tokens hfollows text.toList

end MailTemplate.Markup
