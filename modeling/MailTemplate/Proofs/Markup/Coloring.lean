import MailTemplate.Markup.Palette
import MailTemplate.Proofs.Text.Trim

/-! # Coloring adds only color

A color is a sequence of characters that starts with an escape. Where no token has an escape in its
text, the colored document without its sequences is the plain one (`trim_uncolored_colorize`). The
sequences keep blanks from being trimmed that the plain document does not have, but none of them is
cut: what is trimmed is blank, and no blank is a part of a sequence. -/

namespace MailTemplate.Markup

/-- The text behind some digits, at least one, and an `m`. -/
def behindCode? (cs : List Char) : Option (List Char) :=
  if (cs.takeWhile Char.isDigit).isEmpty then none
  else match cs.dropWhile Char.isDigit with
    | 'm' :: rest => some rest
    | _ => none

/-- The text behind the color sequence at its head: an escape, a bracket and a code. -/
def behindSequence? : List Char → Option (List Char)
  | '\x1b' :: '[' :: cs => behindCode? cs
  | _ => none

theorem length_lt_of_behindCode? {cs rest : List Char} (h : behindCode? cs = some rest) :
    rest.length < cs.length := by
  unfold behindCode? at h
  split at h
  · cases h
  · split at h
    · next hdrop =>
      cases h
      have hle := (List.dropWhile_sublist (p := Char.isDigit) (l := cs)).length_le
      rw [hdrop, List.length_cons] at hle
      exact hle
    · cases h

theorem length_lt_of_behindSequence? {cs rest : List Char} (h : behindSequence? cs = some rest) :
    rest.length < cs.length := by
  unfold behindSequence? at h
  split at h
  · have hlt := length_lt_of_behindCode? h
    simp only [List.length_cons]
    omega
  · cases h

/-- The text without its color sequences. -/
def uncoloredChars : List Char → List Char
  | [] => []
  | c :: cs =>
    match h : behindSequence? (c :: cs) with
    | some rest =>
      have := length_lt_of_behindSequence? h
      uncoloredChars rest
    | none => c :: uncoloredChars cs
termination_by cs => cs.length
decreasing_by
  · exact this
  · exact Nat.lt_succ_self cs.length

def uncolored (text : String) : String :=
  String.ofList (uncoloredChars text.toList)

theorem uncoloredChars_of_some {cs rest : List Char} (h : behindSequence? cs = some rest) :
    uncoloredChars cs = uncoloredChars rest := by
  cases cs with
  | nil => cases h
  | cons c cs =>
    rw [uncoloredChars]
    split
    · next heq =>
      rw [h] at heq
      rw [Option.some.inj heq]
    · next heq =>
      rw [h] at heq
      cases heq

theorem uncoloredChars_of_none {c : Char} {cs : List Char}
    (h : behindSequence? (c :: cs) = none) : uncoloredChars (c :: cs) = c :: uncoloredChars cs := by
  rw [uncoloredChars]
  split
  · next heq =>
    rw [h] at heq
    cases heq
  · rfl

/-! ## Texts without an escape -/

theorem behindSequence?_of_ne {c : Char} (h : c ≠ '\x1b') (cs : List Char) :
    behindSequence? (c :: cs) = none := by
  unfold behindSequence?
  split
  · next heq => exact absurd (List.cons.inj heq).1 h
  · rfl

theorem behindSequence?_escape_of_ne {c : Char} (h : c ≠ '[') (cs : List Char) :
    behindSequence? ('\x1b' :: c :: cs) = none := by
  unfold behindSequence?
  split
  · next heq => exact absurd (List.cons.inj (List.cons.inj heq).2).1 h
  · rfl

theorem uncoloredChars_append_of_notMem {cs : List Char} (h : '\x1b' ∉ cs) (rest : List Char) :
    uncoloredChars (cs ++ rest) = cs ++ uncoloredChars rest := by
  induction cs with
  | nil => rfl
  | cons c cs ih =>
    rw [List.mem_cons, not_or] at h
    have hnone := behindSequence?_of_ne (Ne.symm h.1) (cs ++ rest)
    rw [List.cons_append, uncoloredChars_of_none hnone, ih h.2, List.cons_append]

/-! ## Painting -/

theorem behindSequence?_sequence (code : UInt8) (rest : List Char) :
    behindSequence? ((TokenColor.sequence code).toList ++ rest) = some rest := by
  have hchars : (TokenColor.sequence code).toList ++ rest =
      '\x1b' :: '[' :: (Nat.toDigits 10 code.toNat ++ 'm' :: rest) := by
    simp [TokenColor.sequence]
  have hdigit : ∀ c ∈ Nat.toDigits 10 code.toNat, c.isDigit = true := fun c hc =>
    Nat.isDigit_of_mem_toDigits (by omega) (by omega) hc
  rw [hchars, behindSequence?, behindCode?, List.takeWhile_append_of_pos hdigit,
    List.dropWhile_append_of_pos hdigit]
  simp

theorem uncoloredChars_sequence (code : UInt8) (rest : List Char) :
    uncoloredChars ((TokenColor.sequence code).toList ++ rest) = uncoloredChars rest :=
  uncoloredChars_of_some (behindSequence?_sequence code rest)

theorem uncoloredChars_elim_sequence (code : Option UInt8) (rest : List Char) :
    uncoloredChars ((code.elim "" TokenColor.sequence).toList ++ rest) = uncoloredChars rest := by
  cases code with
  | none => rfl
  | some code => exact uncoloredChars_sequence code rest

theorem uncoloredChars_paint (color : TokenColor) {text : String} (h : '\x1b' ∉ text.toList)
    (rest : List Char) :
    uncoloredChars ((color.paint text).toList ++ rest) = text.toList ++ uncoloredChars rest := by
  simp only [TokenColor.paint, String.toList_append, List.append_assoc]
  rw [uncoloredChars_elim_sequence, uncoloredChars_elim_sequence,
    uncoloredChars_append_of_notMem h, uncoloredChars_sequence]

theorem escape_notMem_punctuation (before after : Option Kind) (kind : Kind) :
    '\x1b' ∉ (punctuation before after kind).1.toList ∧
      '\x1b' ∉ (punctuation before after kind).2.toList := by
  unfold punctuation
  cases kind <;> dsimp only <;> (try split) <;> decide

theorem uncoloredChars_writeFrom (palette : Palette) {tokens : List Token}
    (h : ∀ token ∈ tokens, '\x1b' ∉ token.text.toList) (before : Option Kind) :
    uncoloredChars
        (writeFrom (fun token => (palette.get token.kind).paint token.text) before tokens).toList =
      (writeFrom Token.text before tokens).toList := by
  induction tokens generalizing before with
  | nil => simp [writeFrom, uncoloredChars]
  | cons token tokens ih =>
    obtain ⟨htoken, htokens⟩ := List.forall_mem_cons.mp h
    obtain ⟨hleft, hright⟩ :=
      escape_notMem_punctuation before (tokens.head?.map Token.kind) token.kind
    simp only [writeFrom, String.toList_append, List.append_assoc]
    rw [uncoloredChars_append_of_notMem hleft, uncoloredChars_paint _ htoken,
      uncoloredChars_append_of_notMem hright, ih htokens]

/-! ## Trimming -/

/-- No blank stands in a color sequence. -/
theorem not_inSequence_of_isBlank {c : Char} (h : Text.isBlank c = true) :
    c ≠ '\x1b' ∧ c ≠ '[' ∧ c ≠ 'm' ∧ c.isDigit = false := by
  have hne {d : Char} (hd : Text.isBlank d = false) : c ≠ d := by
    rintro rfl
    rw [h] at hd
    cases hd
  refine ⟨hne (by decide), hne (by decide), hne (by decide), Bool.eq_false_iff.mpr ?_⟩
  intro hdigit
  have hrange : 48 ≤ c.toNat ∧ c.toNat ≤ 57 := by
    simpa [Char.isDigit, UInt32.le_iff_toNat_le] using hdigit
  simp only [Text.isBlank, Bool.or_eq_true, Bool.and_eq_true, decide_eq_true_eq, beq_iff_eq] at h
  omega

section

variable {behind : List Char} (h : ∀ c ∈ behind, Text.isBlank c = true)

include h

theorem takeWhile_isDigit_append_blanks (cs : List Char) :
    (cs ++ behind).takeWhile Char.isDigit = cs.takeWhile Char.isDigit ∧
      (cs ++ behind).dropWhile Char.isDigit = cs.dropWhile Char.isDigit ++ behind := by
  induction cs with
  | nil =>
    cases behind with
    | nil => exact ⟨rfl, rfl⟩
    | cons c behind =>
      have hc := (not_inSequence_of_isBlank (h c List.mem_cons_self)).2.2.2
      simp [hc]
  | cons c cs ih =>
    by_cases hc : c.isDigit = true
    · simpa [hc] using ih
    · simp [hc]

theorem behindCode?_append_blanks (cs : List Char) :
    behindCode? (cs ++ behind) = (behindCode? cs).map (· ++ behind) := by
  obtain ⟨htake, hdrop⟩ := takeWhile_isDigit_append_blanks h cs
  unfold behindCode?
  rw [htake, hdrop]
  split
  · rfl
  · cases cs.dropWhile Char.isDigit with
    | nil =>
      cases behind with
      | nil => rfl
      | cons c behind =>
        have hc := (not_inSequence_of_isBlank (h c List.mem_cons_self)).2.2.1
        rw [List.nil_append]
        split
        · next heq => exact absurd (List.cons.inj heq).1 hc
        · rfl
    | cons c rest =>
      by_cases hc : c = 'm'
      · subst hc
        rfl
      · simp [hc]

/-- A text that is no sequence is none with blanks behind it, and a sequence ends before them. -/
theorem behindSequence?_append_blanks (cs : List Char) :
    behindSequence? (cs ++ behind) = (behindSequence? cs).map (· ++ behind) := by
  -- the first two characters of a sequence may be missing
  match cs with
  | [] =>
    cases behind with
    | nil => rfl
    | cons c behind =>
      exact behindSequence?_of_ne (not_inSequence_of_isBlank (h c List.mem_cons_self)).1 behind
  | [c] =>
    cases behind with
    | nil => simp [behindSequence?]
    | cons d behind =>
      have hd := (not_inSequence_of_isBlank (h d List.mem_cons_self)).2.1
      by_cases hc : c = '\x1b'
      · subst hc
        exact behindSequence?_escape_of_ne hd behind
      · rw [behindSequence?_of_ne hc []]
        exact behindSequence?_of_ne hc (d :: behind)
  | c :: d :: cs =>
    by_cases hc : c = '\x1b'
    · subst hc
      by_cases hd : d = '['
      · subst hd
        exact behindCode?_append_blanks h cs
      · rw [behindSequence?_escape_of_ne hd]
        exact behindSequence?_escape_of_ne hd (cs ++ behind)
    · rw [behindSequence?_of_ne hc]
      exact behindSequence?_of_ne hc (d :: cs ++ behind)

theorem uncoloredChars_append_blanks (cs : List Char) :
    uncoloredChars (cs ++ behind) = uncoloredChars cs ++ behind := by
  fun_induction uncoloredChars cs with
  | case1 =>
    have hmem : '\x1b' ∉ behind := fun hmem => (not_inSequence_of_isBlank (h _ hmem)).1 rfl
    simpa [uncoloredChars] using uncoloredChars_append_of_notMem hmem []
  | case2 c cs rest hsome hlt ih =>
    have happend := behindSequence?_append_blanks h (c :: cs)
    rw [hsome] at happend
    exact (uncoloredChars_of_some happend).trans ih
  | case3 c cs hnone ih =>
    have happend := behindSequence?_append_blanks h (c :: cs)
    rw [hnone] at happend
    exact (uncoloredChars_of_none happend).trans (congrArg (c :: ·) ih)

end

theorem trimChars_uncoloredChars_trimChars (cs : List Char) :
    Text.trimChars (uncoloredChars (Text.trimChars cs)) = Text.trimChars (uncoloredChars cs) := by
  obtain ⟨before, behind, hcs, hbefore, hbehind⟩ := Text.exists_blanks cs
  have hmem : '\x1b' ∉ before := fun hmem => (not_inSequence_of_isBlank (hbefore _ hmem)).1 rfl
  conv_rhs =>
    rw [hcs, List.append_assoc, uncoloredChars_append_of_notMem hmem,
      uncoloredChars_append_blanks hbehind, ← List.append_assoc,
      Text.trimChars_append_blanks hbehind, Text.trimChars, Text.trimStart_blanks_append hbefore,
      ← Text.trimChars]

/-- A colored document without its sequences is the plain document. -/
theorem trim_uncolored_colorize (palette : Palette) {tokens : List Token}
    (h : ∀ token ∈ tokens, '\x1b' ∉ token.text.toList) :
    Text.trim (uncolored (colorize palette tokens)) = toText tokens := by
  rw [colorize, toText, writeWith, writeWith, uncolored, Text.trim, Text.trim, Text.trim,
    String.toList_ofList, String.toList_ofList, trimChars_uncoloredChars_trimChars,
    uncoloredChars_writeFrom palette h]

/-- Blanks that are trimmed, and blanks that a sequence keeps. -/
theorem trim_uncolored_colorize_paddedParagraph :
    let tokens : List Token := [⟨.content, " \n"⟩, ⟨.tagOpen, "p"⟩, ⟨.content, " x "⟩]
    let palette : Palette := { tagOpen := ⟨some 255, some 0⟩, content := ⟨none, none⟩ }
    (∀ token ∈ tokens, '\x1b' ∉ token.text.toList) ∧
      colorize palette tokens =
        "\x1b[0m<\x1b[0m\x1b[255mp\x1b[0m> x \x1b[0m" ∧
      Text.trim (uncolored (colorize palette tokens)) = "<p> x" := by
  intro tokens palette
  have hescape : ∀ token ∈ tokens, '\x1b' ∉ token.text.toList := by decide
  refine ⟨hescape, by decide +kernel, ?_⟩
  rw [trim_uncolored_colorize palette hescape]
  decide +kernel

end MailTemplate.Markup
