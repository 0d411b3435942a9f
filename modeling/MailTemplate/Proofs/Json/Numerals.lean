import Mathlib.Data.List.Basic
import Mathlib.Data.List.TakeDrop
import MailTemplate.Json.Numeral

/-! # Numbers as they are written

What a number may look like: a sign, whole digits without a zero in front, a fraction and a power of
ten (`Numeral.Written`). The reader takes all of it, and stops where the number does
(`Numeral.Written.take`). The text of a whole number is read as this number
(`Number.exists_numeral`). -/

namespace MailTemplate.Json

namespace Numeral

/-- Digits, at least one. -/
structure AreDigits (cs : List Char) : Prop where
  ne_nil : cs ≠ []
  isDigit : ∀ c ∈ cs, c.isDigit = true

/-- Only a lone zero starts with one. -/
structure AreWhole (cs : List Char) : Prop extends AreDigits cs where
  zero : cs.head? = some '0' → cs = ['0']

inductive WrittenFraction : List Char → List Char → Prop
  | none : WrittenFraction [] []
  | digits {digits : List Char} : AreDigits digits → WrittenFraction digits ('.' :: digits)

def IsExponentMark (c : Char) : Prop :=
  c = 'e' ∨ c = 'E'

inductive WrittenExponent : Option Int → List Char → Prop
  | none : WrittenExponent none []
  | unsigned {mark : Char} {digits : List Char} : IsExponentMark mark → AreDigits digits →
      WrittenExponent (some (valueOf digits)) (mark :: digits)
  | plus {mark : Char} {digits : List Char} : IsExponentMark mark → AreDigits digits →
      WrittenExponent (some (valueOf digits)) (mark :: '+' :: digits)
  | minus {mark : Char} {digits : List Char} : IsExponentMark mark → AreDigits digits →
      WrittenExponent (some (-(valueOf digits : Int))) (mark :: '-' :: digits)

/-- How the parts of a number are written. -/
inductive Written : Numeral → List Char → Prop
  | parts {negative : Bool} {integral fraction : List Char} {exponent : Option Int}
      {point power : List Char} : AreWhole integral → WrittenFraction fraction point →
      WrittenExponent exponent power →
      Written ⟨negative, integral, fraction, exponent⟩
        ((if negative then ['-'] else []) ++ (integral ++ (point ++ power)))

/-- A text that does not go on with a number that stands before it. -/
def Ended (rest : List Char) : Prop :=
  ∀ c ∈ rest.head?, c.isDigit = false ∧ c ≠ '.' ∧ ¬ IsExponentMark c

/-! ## Reading the parts -/

section

variable {digits rest : List Char}

theorem takeDigits_append (h : AreDigits digits) (hrest : ∀ c ∈ rest.head?, c.isDigit = false) :
    takeDigits (digits ++ rest) = .ok (digits, rest) := by
  obtain ⟨c, cs, rfl⟩ := List.exists_cons_of_ne_nil h.ne_nil
  have htake : rest.takeWhile Char.isDigit = [] := by
    cases rest with
    | nil => rfl
    | cons d rest => exact List.takeWhile_cons_of_neg (by simp [hrest d rfl])
  have hdrop : rest.dropWhile Char.isDigit = rest := by
    cases rest with
    | nil => rfl
    | cons d rest => exact List.dropWhile_cons_of_neg (by simp [hrest d rfl])
  rw [takeDigits, List.span_eq_takeWhile_dropWhile, List.takeWhile_append_of_pos h.isDigit,
    List.dropWhile_append_of_pos h.isDigit, htake, hdrop, List.append_nil]

theorem takeIntegral_append (h : AreWhole digits) (hrest : ∀ c ∈ rest.head?, c.isDigit = false) :
    takeIntegral (digits ++ rest) = .ok (digits, rest) := by
  by_cases hzero : digits.head? = some '0'
  · obtain rfl := h.zero hzero
    have hany : rest.head?.any Char.isDigit = false := by
      cases hhead : rest.head? with
      | none => rfl
      | some c => exact hrest c hhead
    simp [takeIntegral, hany]
  · have htake : takeIntegral (digits ++ rest) = takeDigits (digits ++ rest) := by
      obtain ⟨c, cs, rfl⟩ := List.exists_cons_of_ne_nil h.ne_nil
      unfold takeIntegral
      split
      · next heq => exact absurd (congrArg some (List.cons.inj heq).1) hzero
      · rfl
    rw [htake, takeDigits_append h.toAreDigits hrest]

theorem takeFraction_append {fraction point : List Char} (h : WrittenFraction fraction point)
    (hrest : ∀ c ∈ rest.head?, c.isDigit = false ∧ c ≠ '.') :
    takeFraction (point ++ rest) = .ok (fraction, rest) := by
  cases h with
  | none =>
    unfold takeFraction
    split
    · next heq => exact absurd rfl (hrest '.' (by rw [← List.nil_append rest, heq]; rfl)).2
    · rfl
  | digits hdigits => exact takeDigits_append hdigits fun c hc => (hrest c hc).1

theorem takeExponent_append {exponent : Option Int} {power : List Char}
    (h : WrittenExponent exponent power) (hrest : Ended rest) :
    takeExponent (power ++ rest) = .ok (exponent, rest) := by
  have hend : ∀ c ∈ rest.head?, c.isDigit = false := fun c hc => (hrest c hc).1
  have hmark {mark : Char} (hmark : IsExponentMark mark) (cs : List Char) :
      takeExponent (mark :: cs) = (takeSigned cs).map fun found => (some found.1, found.2) := by
    rcases hmark with rfl | rfl <;> rfl
  cases h with
  | none =>
    cases rest with
    | nil => rfl
    | cons c rest =>
      have hc := (hrest c rfl).2.2
      simp only [IsExponentMark, not_or] at hc
      simp [takeExponent, hc]
  | unsigned hm hdigits =>
    obtain ⟨c, cs, rfl⟩ := List.exists_cons_of_ne_nil hdigits.ne_nil
    have hc := hdigits.isDigit c List.mem_cons_self
    have hsigned : takeSigned (c :: cs ++ rest) =
        (takeDigits (c :: cs ++ rest)).map fun found => ((valueOf found.1 : Int), found.2) := by
      unfold takeSigned
      split
      · next heq =>
        obtain ⟨rfl, -⟩ := List.cons.inj heq
        cases hc
      · next heq =>
        obtain ⟨rfl, -⟩ := List.cons.inj heq
        cases hc
      · rfl
    rw [List.cons_append, hmark hm, hsigned, takeDigits_append hdigits hend]
    rfl
  | plus hm hdigits =>
    rw [List.cons_append, hmark hm, List.cons_append, takeSigned, takeDigits_append hdigits hend]
    rfl
  | minus hm hdigits =>
    rw [List.cons_append, hmark hm, List.cons_append, takeSigned, takeDigits_append hdigits hend]
    rfl

end

/-! ## Reading numbers -/

theorem not_isDigit_of_isExponentMark {c : Char} (h : IsExponentMark c) :
    c.isDigit = false ∧ c ≠ '.' := by
  rcases h with rfl | rfl <;> decide

theorem head_power {exponent : Option Int} {power rest : List Char}
    (h : WrittenExponent exponent power) (hrest : Ended rest) :
    ∀ c ∈ (power ++ rest).head?, c.isDigit = false ∧ c ≠ '.' := by
  intro c hc
  cases h with
  | none => exact ⟨(hrest c hc).1, (hrest c hc).2.1⟩
  | unsigned hm _ | plus hm _ | minus hm _ =>
    obtain rfl := Option.some.inj hc
    exact not_isDigit_of_isExponentMark hm

theorem head_point {fraction point rest : List Char} (h : WrittenFraction fraction point)
    (hrest : ∀ c ∈ rest.head?, c.isDigit = false ∧ c ≠ '.') :
    ∀ c ∈ (point ++ rest).head?, c.isDigit = false := by
  intro c hc
  cases h with
  | none => exact (hrest c hc).1
  | digits _ =>
    obtain rfl := Option.some.inj hc
    rfl

theorem takeUnsigned_append {negative : Bool} {integral fraction point power rest : List Char}
    {exponent : Option Int} (hintegral : AreWhole integral)
    (hfraction : WrittenFraction fraction point) (hexponent : WrittenExponent exponent power)
    (hrest : Ended rest) :
    takeUnsigned negative (integral ++ (point ++ (power ++ rest))) =
      .ok (⟨negative, integral, fraction, exponent⟩, rest) := by
  have hpower := head_power hexponent hrest
  rw [takeUnsigned, takeIntegral_append hintegral (head_point hfraction hpower)]
  simp only [bind, Except.bind]
  rw [takeFraction_append hfraction hpower]
  simp only
  rw [takeExponent_append hexponent hrest]
  rfl

theorem take_eq_takeUnsigned {integral : List Char} (h : AreDigits integral) (rest : List Char) :
    take (integral ++ rest) = takeUnsigned false (integral ++ rest) := by
  obtain ⟨c, cs, rfl⟩ := List.exists_cons_of_ne_nil h.ne_nil
  have hc := h.isDigit c List.mem_cons_self
  unfold take
  split
  · next heq =>
    obtain ⟨rfl, -⟩ := List.cons.inj heq
    cases hc
  · rfl

theorem Written.take {numeral : Numeral} {cs rest : List Char} (h : Written numeral cs)
    (hrest : Ended rest) : take (cs ++ rest) = .ok (numeral, rest) := by
  obtain @⟨negative, integral, fraction, exponent, point, power, hintegral, hfraction,
    hexponent⟩ := h
  have hunsigned : takeUnsigned negative (integral ++ (point ++ (power ++ rest))) =
      .ok (⟨negative, integral, fraction, exponent⟩, rest) :=
    takeUnsigned_append hintegral hfraction hexponent hrest
  simp only [List.append_assoc]
  cases negative with
  | true => exact hunsigned
  | false => exact (take_eq_takeUnsigned hintegral.toAreDigits _).trans hunsigned

/-- The first character of a number is a sign or a digit. -/
def Starts (c : Char) : Prop :=
  c = '-' ∨ c.isDigit = true

theorem Starts.ne {c d : Char} (h : Starts c) (hd : d ≠ '-' ∧ d.isDigit = false) : c ≠ d := by
  rintro rfl
  rcases h with rfl | hdigit
  · exact hd.1 rfl
  · rw [hd.2] at hdigit
    cases hdigit

theorem Written.head {numeral : Numeral} {cs : List Char} (h : Written numeral cs) :
    ∃ c ds, cs = c :: ds ∧ Starts c := by
  obtain @⟨negative, integral, fraction, exponent, point, power, hintegral, -, -⟩ := h
  obtain ⟨c, ds, rfl⟩ := List.exists_cons_of_ne_nil hintegral.ne_nil
  cases negative with
  | true => exact ⟨'-', _, rfl, .inl rfl⟩
  | false => exact ⟨c, _, rfl, .inr (hintegral.isDigit c List.mem_cons_self)⟩

/-! ## Whole numbers -/

theorem areWhole_toDigits (n : Nat) : AreWhole (Nat.toDigits 10 n) where
  ne_nil := Nat.toDigits_ne_nil
  isDigit _ hc := Nat.isDigit_of_mem_toDigits (by decide) (by decide) hc
  zero := by
    induction n using Nat.strongRecOn with
    | ind n ih =>
      by_cases hn : n < 10
      · rw [Nat.toDigits_of_lt_base hn]
        intro hzero
        simpa using hzero
      · have hlt : n / 10 < n := by omega
        rw [Nat.toDigits_of_base_le (by decide) (by omega),
          List.head?_append_of_ne_nil _ Nat.toDigits_ne_nil]
        intro hzero
        have hvalue := congrArg (Nat.ofDigitChars 10 · 0) (ih _ hlt hzero)
        rw [Nat.ofDigitChars_toDigits (by decide) (by decide)] at hvalue
        have : n / 10 = 0 := hvalue
        omega

theorem valueOf_toDigits (n : Nat) : valueOf (Nat.toDigits 10 n) = n :=
  Nat.ofDigitChars_toDigits (by decide) (by decide)

/-- A number that is written with digits alone, and perhaps a sign. -/
def whole (negative : Bool) (n : Nat) : Numeral :=
  ⟨negative, Nat.toDigits 10 n, [], none⟩

theorem written_whole (negative : Bool) (n : Nat) :
    Written (whole negative n) ((if negative then ['-'] else []) ++ Nat.toDigits 10 n) := by
  have hparts := @Written.parts negative _ _ _ _ _ (areWhole_toDigits n) .none .none
  rwa [List.append_nil, List.append_nil] at hparts

end Numeral

/-- The text of a whole number is read as the number. -/
theorem Number.exists_numeral {n : Number} (h : ∀ x, n ≠ .float x) :
    ∃ numeral : Numeral, numeral.Written n.text.toList ∧ numeral.number = .ok n := by
  cases n with
  | natural n =>
    refine ⟨.whole false n.toNat, ?_, ?_⟩
    · simpa [Number.text, Decimal.Layout.digitsOf] using Numeral.written_whole false n.toNat
    · have hlt : n.toNat < UInt64.size := n.toNat_lt_size
      simp [Numeral.number, Numeral.whole, Numeral.valueOf_toDigits, hlt]
  | negSucc n =>
    refine ⟨.whole true (n.val + 1), ?_, ?_⟩
    · simpa [Number.text, Decimal.Layout.digitsOf] using Numeral.written_whole true (n.val + 1)
    · have hlt : 0 < n.val + 1 ∧ n.val + 1 - 1 < 0x8000000000000000 := ⟨by omega, n.isLt⟩
      simp [Numeral.number, Numeral.whole, Numeral.valueOf_toDigits, hlt]
  | float x => exact absurd rfl (h x)

end MailTemplate.Json
