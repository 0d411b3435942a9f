import Mathlib.Data.List.DropRight
import MailTemplate.Text.Blank

/-! # Trimming

A text is a blank beginning, the trimmed text and a blank end (`exists_blanks`). A trimmed text has
no blank at either end, so trimming it again does nothing. -/

namespace MailTemplate.Text

theorem exists_blank_before (cs : List Char) :
    ∃ before, cs = before ++ trimStart cs ∧ ∀ c ∈ before, isBlank c = true :=
  ⟨cs.takeWhile isBlank, List.takeWhile_append_dropWhile.symm, fun _ h => List.mem_takeWhile_imp h⟩

theorem exists_blank_behind (cs : List Char) :
    ∃ behind, cs = trimEnd cs ++ behind ∧ ∀ c ∈ behind, isBlank c = true := by
  obtain ⟨before, hcs, hblank⟩ := exists_blank_before cs.reverse
  refine ⟨before.reverse, ?_, fun c hc => hblank c (List.mem_reverse.mp hc)⟩
  rw [trimEnd, ← List.reverse_append, ← trimStart, ← hcs, List.reverse_reverse]

theorem exists_blanks (cs : List Char) :
    ∃ before behind, cs = before ++ trimChars cs ++ behind ∧
      (∀ c ∈ before, isBlank c = true) ∧ ∀ c ∈ behind, isBlank c = true := by
  obtain ⟨before, hbefore, hblank⟩ := exists_blank_before cs
  obtain ⟨behind, hbehind, hblank'⟩ := exists_blank_behind (trimStart cs)
  refine ⟨before, behind, ?_, hblank, hblank'⟩
  rw [trimChars, List.append_assoc, ← hbehind, ← hbefore]

theorem trimChars_sublist (cs : List Char) : (trimChars cs).Sublist cs := by
  obtain ⟨before, behind, hcs, -⟩ := exists_blanks cs
  conv_rhs => rw [hcs]
  exact (List.sublist_append_right before _).trans (List.sublist_append_left _ behind)

theorem isBlank_head_trimStart {cs : List Char} {c : Char} {rest : List Char}
    (h : trimStart cs = c :: rest) : isBlank c = false := by
  unfold trimStart at h
  have hne : cs.dropWhile isBlank ≠ [] := by simp [h]
  have hhead := List.head_dropWhile_not isBlank hne
  simpa only [h, List.head_cons] using hhead

/-- A trimmed text that is not empty starts as the text trimmed at its start does. -/
theorem isBlank_head_trimChars {cs : List Char} {c : Char} {rest : List Char}
    (h : trimChars cs = c :: rest) : isBlank c = false := by
  obtain ⟨behind, hbehind, -⟩ := exists_blank_behind (trimStart cs)
  rw [← trimChars, h] at hbehind
  exact isBlank_head_trimStart hbehind

/-- A character that is not blank is left of a text. -/
theorem trimChars_ne_nil {cs : List Char} {c : Char} (hmem : c ∈ cs) (hc : isBlank c = false) :
    trimChars cs ≠ [] := by
  intro hnil
  obtain ⟨before, behind, hcs, hbefore, hbehind⟩ := exists_blanks cs
  rw [hnil, List.append_nil] at hcs
  rw [hcs] at hmem
  have hblank : isBlank c = true := (List.mem_append.mp hmem).elim (hbefore c) (hbehind c)
  rw [hc] at hblank
  cases hblank

theorem exists_trimChars_cons {c : Char} (hc : isBlank c = false) (cs : List Char) :
    ∃ rest, trimChars (c :: cs) = c :: rest := by
  have hstart : trimStart (c :: cs) = c :: cs := List.dropWhile_cons_of_neg (by simp [hc])
  obtain ⟨behind, hbehind, -⟩ := exists_blank_behind (c :: cs)
  rw [trimChars, hstart]
  cases h : trimEnd (c :: cs) with
  | nil =>
    have hnil : trimChars (c :: cs) ≠ [] := trimChars_ne_nil List.mem_cons_self hc
    rw [trimChars, hstart] at hnil
    exact absurd h hnil
  | cons d rest =>
    rw [h, List.cons_append] at hbehind
    obtain ⟨rfl, -⟩ := List.cons.inj hbehind
    exact ⟨rest, rfl⟩

/-! ## Blanks around a text -/

theorem trimStart_blanks_append {before : List Char} (h : ∀ c ∈ before, isBlank c = true)
    (cs : List Char) : trimStart (before ++ cs) = trimStart cs :=
  List.dropWhile_append_of_pos h

theorem trimEnd_append_blanks {behind : List Char} (h : ∀ c ∈ behind, isBlank c = true)
    (cs : List Char) : trimEnd (cs ++ behind) = trimEnd cs := by
  unfold trimEnd
  rw [List.reverse_append, List.dropWhile_append_of_pos]
  exact fun c hc => h c (List.mem_reverse.mp hc)

theorem trimChars_append_blanks {behind : List Char} (h : ∀ c ∈ behind, isBlank c = true)
    (cs : List Char) : trimChars (cs ++ behind) = trimChars cs := by
  unfold trimChars
  by_cases hnil : trimStart cs = []
  · have hcs : ∀ c ∈ cs, isBlank c = true := by simpa [trimStart] using hnil
    rw [trimStart_blanks_append hcs, hnil]
    exact trimEnd_append_blanks (fun c hc => h c ((List.dropWhile_sublist _).mem hc)) []
  · have happend : trimStart (cs ++ behind) = trimStart cs ++ behind := by
      unfold trimStart at hnil ⊢
      rw [List.dropWhile_append, if_neg (by simpa using hnil)]
    rw [happend, trimEnd_append_blanks h]

theorem trim_push_blank {c : Char} (h : isBlank c = true) (text : String) :
    trim (text.push c) = trim text := by
  rw [trim, trim, String.toList_push, trimChars_append_blanks (by simpa using h)]

theorem trim_append_space (text : String) : trim (text ++ " ") = trim text := by
  have h := trim_push_blank (show isBlank ' ' = true by decide) text
  rwa [String.push_eq_append] at h

/-! ## Trimming twice -/

theorem trimStart_trimChars (cs : List Char) : trimStart (trimChars cs) = trimChars cs := by
  cases h : trimChars cs with
  | nil => rfl
  | cons c rest =>
    have hc : ¬ isBlank c = true := by simp [isBlank_head_trimChars h]
    exact List.dropWhile_cons_of_neg hc

theorem trimChars_trimChars (cs : List Char) : trimChars (trimChars cs) = trimChars cs := by
  rw [trimChars, trimStart_trimChars]
  exact List.rdropWhile_idempotent isBlank (trimStart cs)

theorem trim_trim (text : String) : trim (trim text) = trim text := by
  rw [trim, trim, String.toList_ofList, trimChars_trimChars]

/-! ## Trimmed texts -/

theorem trimStart_eq_self_iff {cs : List Char} :
    trimStart cs = cs ↔ ∀ c ∈ cs.head?, isBlank c = false := by
  cases cs with
  | nil => simp [trimStart]
  | cons c cs =>
    rw [trimStart, List.dropWhile_eq_self_iff]
    simp

theorem trimEnd_eq_self_iff {cs : List Char} :
    trimEnd cs = cs ↔ ∀ c ∈ cs.getLast?, isBlank c = false := by
  have hreverse : trimEnd cs = cs ↔ trimStart cs.reverse = cs.reverse := by
    rw [trimEnd, List.reverse_eq_iff, trimStart]
  rw [hreverse, trimStart_eq_self_iff, List.head?_reverse]

theorem trimChars_eq_self_iff {cs : List Char} :
    trimChars cs = cs ↔
      (∀ c ∈ cs.head?, isBlank c = false) ∧ ∀ c ∈ cs.getLast?, isBlank c = false := by
  rw [← trimStart_eq_self_iff, ← trimEnd_eq_self_iff]
  constructor
  · intro h
    have hstart : trimStart cs = cs := by rw [← h, trimStart_trimChars]
    rw [trimChars, hstart] at h
    exact ⟨hstart, h⟩
  · rintro ⟨hstart, hend⟩
    rw [trimChars, hstart, hend]

end MailTemplate.Text
