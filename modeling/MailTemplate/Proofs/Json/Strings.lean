import MailTemplate.Json.Quoted

/-! # Strings as they are written

What may stand between two quotes, and which text it stands for (`Quoted.Spells`). A half of a
character without its other half stands for no text, but it may be written. The reader stops at the
closing quote and finds the text, or that there is none (`Quoted.Spells.take`); what is written for
a text stands for this text (`Quoted.spells_encode`). -/

namespace MailTemplate.Json.Quoted

/-- The code that is written with four hexadecimal digits. -/
def code? : List Char → Option Nat
  | [a, b, c, d] =>
    match hexDigit? a, hexDigit? b, hexDigit? c, hexDigit? d with
    | some a, some b, some c, some d => some (((a * 16 + b) * 16 + c) * 16 + d)
    | _, _, _, _ => none
  | _ => none

/-- The character beyond the codes of four digits that two of them stand for. -/
def paired (leading trailing : Nat) : Char :=
  Char.ofNat (0x10000 + (leading - 0xD800) * 0x400 + (trailing - 0xDC00))

/-- The characters between two quotes, and the text that they stand for. -/
inductive Spells : List Char → Except Fault (List Char) → Prop
  | done : Spells [] (.ok [])
  | plain {c : Char} {cs : List Char} {text : Except Fault (List Char)} :
      c ≠ '"' → c ≠ '\\' → ' ' ≤ c → Spells cs text → Spells (c :: cs) (text.map (c :: ·))
  | escaped {letter c : Char} {cs : List Char} {text : Except Fault (List Char)} :
      escaped? letter = some c → Spells cs text →
      Spells ('\\' :: letter :: cs) (text.map (c :: ·))
  | code {hex cs : List Char} {code : Nat} {text : Except Fault (List Char)} :
      code? hex = some code → isLeading code = false → isTrailing code = false →
      Spells cs text → Spells ('\\' :: 'u' :: hex ++ cs) (text.map (Char.ofNat code :: ·))
  | pair {hex hex' cs : List Char} {leading trailing : Nat} {text : Except Fault (List Char)} :
      code? hex = some leading → isLeading leading = true →
      code? hex' = some trailing → isTrailing trailing = true → Spells cs text →
      Spells ('\\' :: 'u' :: hex ++ '\\' :: 'u' :: hex' ++ cs)
        (text.map (paired leading trailing :: ·))
  | trailing {hex cs : List Char} {code : Nat} {text : Except Fault (List Char)} :
      code? hex = some code → isTrailing code = true → Spells cs text →
      Spells ('\\' :: 'u' :: hex ++ cs) (.error .loneSurrogate)
  | leading {hex hex' cs : List Char} {code next : Nat} {text : Except Fault (List Char)} :
      code? hex = some code → isLeading code = true →
      code? hex' = some next → isTrailing next = false →
      Spells ('\\' :: 'u' :: hex' ++ cs) text →
      Spells ('\\' :: 'u' :: hex ++ '\\' :: 'u' :: hex' ++ cs) (.error .loneSurrogate)
  | leadingAlone {hex cs : List Char} {code : Nat} {text : Except Fault (List Char)} :
      code? hex = some code → isLeading code = true → (∀ ds, cs ≠ '\\' :: 'u' :: ds) →
      Spells cs text → Spells ('\\' :: 'u' :: hex ++ cs) (.error .unfinishedSurrogates)

/-! ## Codes -/

theorem exists_digits {hex : List Char} {code : Nat} (h : code? hex = some code) :
    ∃ a b c d w x y z, hex = [a, b, c, d] ∧ hexDigit? a = some w ∧ hexDigit? b = some x ∧
      hexDigit? c = some y ∧ hexDigit? d = some z ∧
      code = ((w * 16 + x) * 16 + y) * 16 + z := by
  unfold code? at h
  split at h
  · split at h
    · next ha hb hc hd =>
      exact ⟨_, _, _, _, _, _, _, _, rfl, ha, hb, hc, hd, (Option.some.inj h).symm⟩
    · cases h
  · cases h

theorem length_le_utf8ByteSize (cs : List Char) :
    cs.length ≤ (String.ofList cs).utf8ByteSize := by
  induction cs with
  | nil => exact Nat.zero_le _
  | cons c cs ih =>
    have hc := c.utf8Size_pos
    rw [String.ofList_cons, String.utf8ByteSize_append, String.utf8ByteSize_singleton,
      List.length_cons]
    omega

/-- The reader finds the code, and the text behind it. -/
theorem hexCode_append {hex : List Char} {code : Nat} (h : code? hex = some code)
    (rest : List Char) : hexCode (hex ++ rest) = .ok code ∧ (hex ++ rest).drop 4 = rest := by
  obtain ⟨a, b, c, d, w, x, y, z, rfl, ha, hb, hc, hd, rfl⟩ := exists_digits h
  refine ⟨?_, rfl⟩
  have hsize : ¬ (String.ofList [a, b, c, d]).utf8ByteSize < 4 :=
    Nat.not_lt.mpr (length_le_utf8ByteSize [a, b, c, d])
  unfold hexCode
  rw [if_neg (by simpa using hsize)]
  simp only [List.cons_append, List.nil_append, ha, hb, hc, hd]

theorem codeChar_append {hex : List Char} {code : Nat} (h : code? hex = some code)
    (rest : List Char) :
    codeChar (hex ++ rest) =
      if isTrailing code then .error .loneSurrogate
      else if isLeading code then pairWith code rest
      else .ok (Char.ofNat code, rest) := by
  obtain ⟨hcode, hdrop⟩ := hexCode_append h rest
  rw [codeChar, hcode, hdrop]
  rfl

theorem isTrailing_of_isLeading {code : Nat} (h : isLeading code = true) :
    isTrailing code = false := by
  simp only [isLeading, isTrailing, Bool.and_eq_true, decide_eq_true_eq, Bool.and_eq_false_iff,
    decide_eq_false_iff_not] at h ⊢
  omega

theorem pairWith_append {hex : List Char} {trailing : Nat} (h : code? hex = some trailing)
    (leading : Nat) (rest : List Char) :
    pairWith leading ('\\' :: 'u' :: (hex ++ rest)) =
      if isTrailing trailing then .ok (paired leading trailing, rest)
      else .error .loneSurrogate := by
  obtain ⟨hcode, hdrop⟩ := hexCode_append h rest
  rw [pairWith, hcode, hdrop]
  rfl

theorem pairWith_of_ne {cs : List Char} (h : ∀ ds, cs ≠ '\\' :: 'u' :: ds) (leading : Nat)
    (rest : List Char) :
    pairWith leading (cs ++ '"' :: rest) = .error .unfinishedSurrogates := by
  apply pairWith.eq_4
  · simp
  · intro heq
    have hlength := congrArg List.length heq
    simp only [List.length_append, List.length_cons, List.length_nil] at hlength
    obtain rfl : cs = [] := List.length_eq_zero_iff.mp (by omega)
    simp at heq
  · intro ds heq
    match cs with
    | [] => simp at heq
    | [c] => simp at heq
    | c :: d :: cs =>
      simp only [List.cons_append, List.cons.injEq] at heq
      exact h cs (by rw [heq.1, heq.2.1])

/-! ## Reading the characters one by one -/

section

variable {c : Char} (cs : List Char)

theorem read_plain (hquote : c ≠ '"') (hslash : c ≠ '\\') (hcontrol : ' ' ≤ c) :
    decode (c :: cs) = (decode cs).map (c :: ·) ∧ pass (c :: cs) = pass cs := by
  have hc : ¬ c < ' ' := Char.not_lt.mpr hcontrol
  constructor
  · rw [decode.eq_6 c cs hquote (fun h _ => hslash h) (fun _ h _ => hslash h)
      (fun _ _ h _ => hslash h), if_neg hc]
  · rw [pass.eq_6 c cs hquote (fun h _ => hslash h) (fun _ h _ => hslash h)
      (fun _ _ h _ => hslash h), if_neg hc]

theorem read_escaped {letter : Char} (h : escaped? letter = some c) :
    decode ('\\' :: letter :: cs) = (decode cs).map (c :: ·) ∧
      pass ('\\' :: letter :: cs) = pass cs := by
  have hletter : letter ≠ 'u' := by
    rintro rfl
    cases h
  constructor
  · rw [decode.eq_5 letter cs hletter, h]
  · rw [pass.eq_5 letter cs hletter, h]
    rfl

theorem decode_code {rest : List Char} (h : codeChar cs = .ok (c, rest)) :
    decode ('\\' :: 'u' :: cs) = (decode rest).map (c :: ·) := by
  rw [decode]
  split <;> simp_all

theorem decode_fault {fault : Fault} (h : codeChar cs = .error fault) :
    decode ('\\' :: 'u' :: cs) = .error fault := by
  rw [decode]
  split <;> simp_all

theorem pass_code {hex : List Char} {code : Nat} (h : code? hex = some code) :
    pass ('\\' :: 'u' :: (hex ++ cs)) = pass cs := by
  obtain ⟨hcode, hdrop⟩ := hexCode_append h cs
  rw [pass, hcode, hdrop]

end

/-! ## Reading strings -/

theorem Spells.read {cs : List Char} {text : Except Fault (List Char)} (h : Spells cs text)
    (rest : List Char) :
    decode (cs ++ '"' :: rest) = text ∧ pass (cs ++ '"' :: rest) = .ok rest := by
  induction h with
  | done => exact ⟨by rw [List.nil_append, decode], by rw [List.nil_append, pass]⟩
  | @plain c cs text hquote hslash hcontrol _ ih =>
    obtain ⟨hdecode, hpass⟩ := read_plain (cs ++ '"' :: rest) hquote hslash hcontrol
    exact ⟨by rw [List.cons_append, hdecode, ih.1], hpass.trans ih.2⟩
  | @escaped letter c cs text hletter _ ih =>
    obtain ⟨hdecode, hpass⟩ := read_escaped (cs ++ '"' :: rest) hletter
    exact ⟨by rw [List.cons_append, List.cons_append, hdecode, ih.1], hpass.trans ih.2⟩
  | @code hex cs code text hcode hleading htrailing _ ih =>
    have hchar := codeChar_append hcode (cs ++ '"' :: rest)
    rw [htrailing, hleading] at hchar
    simp only [List.cons_append, List.append_assoc]
    exact ⟨by rw [decode_code _ hchar, ih.1], (pass_code _ hcode).trans ih.2⟩
  | @pair hex hex' cs leading trailing text hcode hleading hcode' htrailing _ ih =>
    have hchar := codeChar_append hcode ('\\' :: 'u' :: (hex' ++ (cs ++ '"' :: rest)))
    rw [isTrailing_of_isLeading hleading, hleading, pairWith_append hcode', htrailing] at hchar
    simp only [List.cons_append, List.append_assoc]
    refine ⟨by rw [decode_code _ hchar, ih.1], ?_⟩
    rw [pass_code _ hcode, pass_code _ hcode', ih.2]
  | @trailing hex cs code text hcode htrailing _ ih =>
    have hchar := codeChar_append hcode (cs ++ '"' :: rest)
    rw [htrailing] at hchar
    simp only [List.cons_append, List.append_assoc]
    exact ⟨decode_fault _ hchar, (pass_code _ hcode).trans ih.2⟩
  | @leading hex hex' cs code next text hcode hleading hcode' hnext _ ih =>
    have hchar := codeChar_append hcode ('\\' :: 'u' :: (hex' ++ (cs ++ '"' :: rest)))
    rw [isTrailing_of_isLeading hleading, hleading, pairWith_append hcode', hnext] at hchar
    simp only [List.cons_append, List.append_assoc] at ih ⊢
    exact ⟨decode_fault _ hchar, (pass_code _ hcode).trans ih.2⟩
  | @leadingAlone hex cs code text hcode hleading hne _ ih =>
    have hchar := codeChar_append hcode (cs ++ '"' :: rest)
    rw [isTrailing_of_isLeading hleading, hleading, pairWith_of_ne hne] at hchar
    simp only [List.cons_append, List.append_assoc]
    exact ⟨decode_fault _ hchar, (pass_code _ hcode).trans ih.2⟩

/-- The reader takes a string to its closing quote, and finds nothing wrong with it. -/
theorem Spells.take {cs : List Char} {text : Except Fault (List Char)} (h : Spells cs text)
    (rest : List Char) :
    take (cs ++ '"' :: rest) = (⟨text.map String.ofList, none⟩, rest) := by
  obtain ⟨hdecode, hpass⟩ := h.read rest
  rw [Quoted.take, hpass, hdecode]

/-! ## Writing strings -/

theorem code?_control {c : Char} (h : c < ' ') :
    code? ['0', '0', Nat.digitChar (c.toNat / 16), Nat.digitChar (c.toNat % 16)] =
      some c.toNat := by
  have hc : c.toNat < 32 := h
  have hall : ∀ n < 32, code? ['0', '0', Nat.digitChar (n / 16), Nat.digitChar (n % 16)] =
      some n := by decide
  exact hall _ hc

theorem spells_encodeChar (c : Char) {cs text : List Char} (h : Spells cs (.ok text)) :
    Spells (encodeChar c ++ cs) (.ok (c :: text)) := by
  unfold encodeChar
  split
  all_goals try exact .escaped rfl h
  next hquote hslash _ _ _ _ _ =>
    split
    · next hcontrol =>
      have hlt : c.toNat < 32 := hcontrol
      have hleading : isLeading c.toNat = false := by simp [isLeading]; omega
      have htrailing : isTrailing c.toNat = false := by simp [isTrailing]; omega
      have hchar := Spells.code (code?_control hcontrol) hleading htrailing h
      simpa [Except.map] using hchar
    · next hcontrol => exact .plain hquote hslash (Char.not_lt.mp hcontrol) h

theorem spells_encode (text : String) :
    ∃ cs, encode text = '"' :: cs ++ ['"'] ∧ Spells cs (.ok text.toList) := by
  refine ⟨_, rfl, ?_⟩
  induction text.toList with
  | nil => exact .done
  | cons c cs ih => exact spells_encodeChar c ih

end MailTemplate.Json.Quoted
