import Mathlib.Data.List.Basic
import MailTemplate.Interpolation

/-! # Expressions by searching

The expressions of a template are found one character at a time. The result is that of searching for
the first two opening braces, then for the first two closing ones behind them, and going on after
those (`interpolate_eq_spliced`). What has been read and is not decided yet is text that the search
has to pass over first, and this is what each character preserves (`rendered_eq_spliced`). -/

namespace MailTemplate.Interpolation

/-! ## Searching for two equal characters -/

section

variable {brace c : Char} {text : List Char}

theorem dropInfix?_go (needle text passed : List Char) :
    List.dropInfix?.go needle text passed =
      (text.dropInfix? needle).map fun found => (passed.reverse ++ found.1, found.2) := by
  induction text generalizing passed with
  | nil =>
    unfold List.dropInfix? List.dropInfix?.go
    split <;> simp
  | cons c text ih =>
    rw [List.dropInfix?, List.dropInfix?.go, List.dropInfix?.go]
    cases (c :: text).dropPrefix? needle with
    | some behind => simp
    | none => simp [ih (c :: passed), ih [c], Function.comp_def]

theorem dropInfix?_cons {needle : List Char} (h : (c :: text).dropPrefix? needle = none) :
    (c :: text).dropInfix? needle =
      (text.dropInfix? needle).map fun found => (c :: found.1, found.2) := by
  rw [List.dropInfix?, List.dropInfix?.go, h]
  exact dropInfix?_go needle text [c]

theorem dropInfix?_nil : [].dropInfix? [brace, brace] = none := rfl

theorem dropInfix?_single : [c].dropInfix? [brace, brace] = none := by
  rw [dropInfix?_cons (by simp [List.dropPrefix?]), dropInfix?_nil, Option.map_none]

theorem dropInfix?_pair :
    (brace :: brace :: text).dropInfix? [brace, brace] = some ([], text) := by
  simp [List.dropInfix?, List.dropInfix?.go, List.dropPrefix?]

theorem dropInfix?_of_ne (h : c ≠ brace) :
    (c :: text).dropInfix? [brace, brace] =
      (text.dropInfix? [brace, brace]).map fun found => (c :: found.1, found.2) :=
  dropInfix?_cons (by simp [List.dropPrefix?, h])

/-- One brace is passed over together with what is behind it. -/
theorem dropInfix?_brace (h : c ≠ brace) :
    (brace :: c :: text).dropInfix? [brace, brace] =
      (text.dropInfix? [brace, brace]).map fun found => (brace :: c :: found.1, found.2) := by
  rw [dropInfix?_cons (by simp [List.dropPrefix?, h]), dropInfix?_of_ne h, Option.map_map]
  rfl

theorem length_lt_of_dropInfix? {before behind : List Char}
    (h : text.dropInfix? [brace, brace] = some (before, behind)) :
    behind.length < text.length := by
  obtain ⟨⟨braces, rfl, hbraces⟩, -⟩ := List.dropInfix?_eq_some_iff.mp h
  obtain rfl := eq_of_beq hbraces
  simp only [List.length_append, List.length_cons]
  omega

end

/-- The search for two closing braces passes over the code, whatever is behind it. -/
def Passes (code : List Char) : Prop :=
  ∀ text, (code ++ text).dropInfix? ['}', '}'] =
    (text.dropInfix? ['}', '}']).map fun found => (code ++ found.1, found.2)

theorem Passes.nil : Passes [] := by
  intro text
  simp

theorem Passes.append {code more : List Char} (h : Passes code) (hmore : Passes more) :
    Passes (code ++ more) := by
  intro text
  rw [List.append_assoc, h, hmore, Option.map_map]
  simp [Function.comp_def]

theorem passes_of_ne {c : Char} (h : c ≠ '}') : Passes [c] :=
  fun _ => dropInfix?_of_ne h

theorem passes_brace {c : Char} (h : c ≠ '}') : Passes ['}', c] :=
  fun _ => dropInfix?_brace h

/-! ## Reading one character at a time -/

namespace State

/-- What has been read but is neither copied nor evaluated yet. -/
def pending : State → List Char
  | outside => []
  | opening => ['{']
  | inside code => '{' :: '{' :: code.toList
  | closing code => '{' :: '{' :: code.toList ++ ['}']

/-- The end of the code has not been read. -/
def Undecided : State → Prop
  | outside | opening => True
  | inside code | closing code => Passes code.toList

theorem step_outside (c : Char) : outside.step c =
    if c = '{' then (opening, none) else (outside, some (.literal (String.singleton c))) := by
  simp [step]

theorem step_opening (c : Char) : opening.step c =
    if c = '{' then (inside "", none)
    else (outside, some (.literal ("\x7b" ++ String.singleton c))) := by
  simp [step]

theorem step_inside (code : String) (c : Char) : (inside code).step c =
    if c = '}' then (closing code, none) else (inside (code.push c), none) := by
  simp [step]

theorem step_closing (code : String) (c : Char) : (closing code).step c =
    if c = '}' then (outside, some (.code code))
    else (inside ((code.push '}').push c), none) := by
  simp [step]

/-- Code that is read on does not have its end in it, and code with an end is over. -/
theorem Undecided.step {state : State} (h : state.Undecided) (c : Char) :
    (state.step c).1.Undecided := by
  cases state with
  | outside =>
    rw [step_outside]
    split <;> trivial
  | opening =>
    rw [step_opening]
    split
    · exact Passes.nil
    · trivial
  | inside code =>
    rw [step_inside]
    split
    · exact h
    · next hc =>
      have hpasses := Passes.append h (passes_of_ne hc)
      rwa [← String.toList_push] at hpasses
  | closing code =>
    rw [step_closing]
    split
    · trivial
    · next hc =>
      have hpasses := Passes.append h (passes_brace hc)
      rwa [← List.singleton_append, ← List.append_assoc, ← String.toList_push,
        ← String.toList_push] at hpasses

end State

section

variable {m : Type → Type} [Monad m] [MonadLog m]

/-- What takes the place of code, by what it is evaluated to. -/
def shown (code : String) : Outcome → m String
  | .ok (some text) => return Markup.escape text
  | .ok none => return ""
  | .error failure => do
    record ⟨.warn, .interpolation,
      "template expression `" ++ Text.trim code ++ "` failed: " ++ failure.message⟩
    return "<span class=\"jserror\">" ++ Markup.escape failure.message ++ "</span>"

theorem substitute_eq_shown (code : String) (outcome : Outcome) :
    (substitute code outcome : m String) = shown code outcome := by
  rcases outcome with failure | _ | text
  · rw [substitute, errorMark_eq]
    rfl
  · rfl
  · rfl

/-! ## Replacing what the search finds -/

/-- The text with the code between the first two opening braces and the first two closing ones
behind them replaced, and so on with the rest. Without such braces all of it stays as it is. -/
def spliced (evaluate : String → m Outcome) (text : List Char) : m String :=
  match _hopen : text.dropInfix? ['{', '{'] with
  | none => return String.ofList text
  | some (before, behind) =>
    match _hclose : behind.dropInfix? ['}', '}'] with
    | none => return String.ofList text
    | some (code, rest) => do
      let value ← shown (String.ofList code) (← evaluate (String.ofList code))
      let document ← spliced evaluate rest
      return String.ofList before ++ value ++ document
termination_by text.length
decreasing_by
  have hbehind := length_lt_of_dropInfix? _hopen
  have hrest := length_lt_of_dropInfix? _hclose
  exact Nat.lt_trans hrest hbehind

section

variable (evaluate : String → m Outcome) {text before behind code rest : List Char}

theorem spliced_of_none (hopen : text.dropInfix? ['{', '{'] = none) :
    spliced evaluate text = return String.ofList text := by
  rw [spliced]
  split <;> simp_all

theorem spliced_of_unclosed (hopen : text.dropInfix? ['{', '{'] = some (before, behind))
    (hclose : behind.dropInfix? ['}', '}'] = none) :
    spliced evaluate text = return String.ofList text := by
  rw [spliced]
  split
  · rfl
  · split <;> simp_all

theorem spliced_of_code (hopen : text.dropInfix? ['{', '{'] = some (before, behind))
    (hclose : behind.dropInfix? ['}', '}'] = some (code, rest)) :
    spliced evaluate text = do
      let value ← shown (String.ofList code) (← evaluate (String.ofList code))
      let document ← spliced evaluate rest
      return String.ofList before ++ value ++ document := by
  rw [spliced]
  split
  · simp_all
  · split <;> simp_all

theorem spliced_unclosed (h : code.dropInfix? ['}', '}'] = none) :
    spliced evaluate ('{' :: '{' :: code) = return String.ofList ('{' :: '{' :: code) :=
  spliced_of_unclosed evaluate dropInfix?_pair h

theorem spliced_pending {state : State} (h : state.Undecided) :
    spliced evaluate state.pending = return String.ofList state.pending := by
  cases state with
  | outside => exact spliced_of_none evaluate dropInfix?_nil
  | opening => exact spliced_of_none evaluate dropInfix?_single
  | inside code =>
    have hcode := h []
    rw [List.append_nil, dropInfix?_nil, Option.map_none] at hcode
    exact spliced_unclosed evaluate hcode
  | closing code =>
    have hcode := h ['}']
    rw [dropInfix?_single, Option.map_none] at hcode
    exact spliced_unclosed evaluate hcode

end

variable [LawfulMonad m] (evaluate : String → m Outcome)

/-- Text that the search for an expression passes over is copied. -/
theorem spliced_append (passed text : List Char)
    (h : (passed ++ text).dropInfix? ['{', '{'] =
      (text.dropInfix? ['{', '{']).map fun found => (passed ++ found.1, found.2)) :
    spliced evaluate (passed ++ text) =
      (String.ofList passed ++ ·) <$> spliced evaluate text := by
  cases hopen : text.dropInfix? ['{', '{'] with
  | none =>
    rw [hopen] at h
    rw [spliced_of_none evaluate h, spliced_of_none evaluate hopen]
    simp
  | some found =>
    obtain ⟨before, behind⟩ := found
    rw [hopen] at h
    cases hclose : behind.dropInfix? ['}', '}'] with
    | none =>
      rw [spliced_of_unclosed evaluate h hclose, spliced_of_unclosed evaluate hopen hclose]
      simp
    | some found =>
      obtain ⟨code, rest⟩ := found
      rw [spliced_of_code evaluate h hclose, spliced_of_code evaluate hopen hclose]
      simp [String.append_assoc]

theorem spliced_of_ne {c : Char} (h : c ≠ '{') (text : List Char) :
    spliced evaluate (c :: text) = (String.singleton c ++ ·) <$> spliced evaluate text := by
  have happend := spliced_append evaluate [c] text (dropInfix?_of_ne h)
  simpa using happend

theorem spliced_brace {c : Char} (h : c ≠ '{') (text : List Char) :
    spliced evaluate ('{' :: c :: text) =
      ("\x7b" ++ String.singleton c ++ ·) <$> spliced evaluate text := by
  have happend := spliced_append evaluate ['{', c] text (dropInfix?_brace h)
  simpa using happend

/-- An expression at the head of a text. -/
theorem spliced_code {code : List Char} (h : Passes code) (rest : List Char) :
    spliced evaluate ('{' :: '{' :: code ++ '}' :: '}' :: rest) = do
      let value ← shown (String.ofList code) (← evaluate (String.ofList code))
      let document ← spliced evaluate rest
      return value ++ document := by
  have hclose : (code ++ '}' :: '}' :: rest).dropInfix? ['}', '}'] = some (code, rest) := by
    rw [h, dropInfix?_pair]
    simp
  rw [List.cons_append, List.cons_append, spliced_of_code evaluate dropInfix?_pair hclose]
  simp

/-! ## Both at once -/

/-- What a template gives that is read from `state` on. -/
def rendered (state : State) (text : List Char) : m String := do
  let pieces ← (state.pieces text).mapM (renderPiece evaluate)
  return String.join pieces

/-- The document with a piece in front of it, if a character has completed one. -/
def withPiece : Option Piece → m String → m String
  | none, document => document
  | some piece, document => do
    let copied ← renderPiece evaluate piece
    return copied ++ (← document)

theorem rendered_nil (state : State) :
    rendered evaluate state [] = return String.ofList state.pending := by
  have hinside : ∀ code : String,
      "\x7b\x7b" ++ code = String.ofList (State.inside code).pending := by
    intro code
    exact String.toList_inj.mp (by simp [State.pending])
  have hclosing : ∀ code : String,
      "\x7b\x7b" ++ code ++ "\x7d" = String.ofList (State.closing code).pending := by
    intro code
    exact String.toList_inj.mp (by simp [State.pending])
  cases state with
  | outside => simp [rendered, State.pieces, State.finish, State.pending]
  | opening => simp [rendered, State.pieces, State.finish, State.pending, renderPiece]
  | inside code => simp [rendered, State.pieces, State.finish, renderPiece, ← hinside]
  | closing code => simp [rendered, State.pieces, State.finish, renderPiece, ← hclosing]

theorem rendered_cons (state : State) (c : Char) (text : List Char) :
    rendered evaluate state (c :: text) =
      withPiece evaluate (state.step c).2 (rendered evaluate (state.step c).1 text) := by
  cases hpiece : (state.step c).2 with
  | none => simp [rendered, State.pieces, hpiece, withPiece]
  | some piece => simp [rendered, State.pieces, hpiece, withPiece]

/-- What a character decides about the pending text is what the search finds in it. -/
theorem spliced_step {state : State} (h : state.Undecided) (c : Char) (text : List Char) :
    spliced evaluate (state.pending ++ c :: text) =
      withPiece evaluate (state.step c).2
        (spliced evaluate ((state.step c).1.pending ++ text)) := by
  cases state with
  | outside =>
    rw [State.step_outside]
    split
    · next hc => simp [withPiece, State.pending, hc]
    · next hc => simp [withPiece, renderPiece, State.pending, spliced_of_ne evaluate hc]
  | opening =>
    rw [State.step_opening]
    split
    · next hc => simp [withPiece, State.pending, hc]
    · next hc => simp [withPiece, renderPiece, State.pending, spliced_brace evaluate hc]
  | inside code =>
    rw [State.step_inside]
    split
    · next hc => simp [withPiece, State.pending, hc]
    · simp [withPiece, State.pending]
  | closing code =>
    rw [State.step_closing]
    split
    · next hc =>
      have hcode := spliced_code evaluate h text
      rw [String.ofList_toList] at hcode
      simpa [withPiece, renderPiece, substitute_eq_shown, State.pending, hc] using hcode
    · simp [withPiece, State.pending]

/-- A search from the start finds the same as reading on, where the text that is pending does not
decide it. -/
theorem rendered_eq_spliced {state : State} (h : state.Undecided) (text : List Char) :
    rendered evaluate state text = spliced evaluate (state.pending ++ text) := by
  induction text generalizing state with
  | nil => rw [rendered_nil, List.append_nil, spliced_pending evaluate h]
  | cons c text ih => rw [rendered_cons, spliced_step evaluate h, ih (h.step c)]

/-- A template with its expressions replaced is what searching for them from the left gives, behind
the style of failed ones. -/
theorem interpolate_eq_spliced (errorStyle template : String) :
    interpolate evaluate errorStyle template = do
      let document ← spliced evaluate template.toList
      return "<style>.jserror\x7b" ++ errorStyle ++ "\x7d</style>" ++ document := by
  have hstart : State.outside.Undecided := trivial
  have hrendered := rendered_eq_spliced evaluate hstart template.toList
  rw [State.pending, List.nil_append] at hrendered
  rw [← hrendered]
  simp [interpolate, rendered, pieces, preamble, errorClass]

end

/-- An evaluator that numbers its calls and fails for one code. -/
def numbered : String → StateT Nat Logged Outcome := fun code => do
  modify (· + 1)
  if code == "no" then return .error (.thrown code)
  return .ok (some (toString (← get)))

def numberedTemplate : String :=
  "\x7b\x7ba\x7d\x7d\x7d \x7b\x7bno\x7d\x7d \x7b\x7b\x7bb\x7d c\x7d"

theorem interpolate_eq_spliced_numbered :
    let document : StateT Nat Logged String := do
      let document ← spliced numbered numberedTemplate.toList
      return "<style>.jserror\x7b" ++ "" ++ "\x7d</style>" ++ document
    Id.run ((document.run 0).run []) =
      (("<style>.jserror\x7b\x7d</style>1\x7d <span class=\"jserror\">no</span> " ++
        "\x7b\x7b\x7bb\x7d c\x7d", 2), [failureRecord "no" (.thrown "no")]) := by
  rw [← interpolate_eq_spliced]
  decide +kernel

end MailTemplate.Interpolation
