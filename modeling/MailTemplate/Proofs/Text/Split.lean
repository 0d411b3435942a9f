import MailTemplate.Text.Blank

/-! # Cutting a text at separators

Two texts with a separator between them are cut each on its own (`split_append_separator`). -/

namespace MailTemplate.Text

section

variable {separates : Char → Bool} {piece : List Char}

theorem split_of_none (h : ∀ c ∈ piece, separates c = false) : split separates piece = [piece] := by
  induction piece with
  | nil => rfl
  | cons c piece ih =>
    have hc := h c List.mem_cons_self
    have hpiece := ih fun d hd => h d (List.mem_cons_of_mem _ hd)
    simp [split, hc, hpiece]

theorem split_append_separator {separator : Char} (h : separates separator = true)
    (cs rest : List Char) :
    split separates (cs ++ separator :: rest) = split separates cs ++ split separates rest := by
  induction cs with
  | nil => simp [split, h]
  | cons c cs ih =>
    rw [List.cons_append, split, split, ih]
    by_cases hc : separates c = true
    · rw [if_pos hc, if_pos hc, List.cons_append]
    · rw [if_neg hc, if_neg hc]
      cases hcs : split separates cs with
      | nil => exact absurd hcs (split_ne_nil _ _)
      | cons piece pieces => rfl

theorem split_append_cons (h : ∀ c ∈ piece, separates c = false) {last : Char}
    (hlast : separates last = true) (rest : List Char) :
    split separates (piece ++ last :: rest) = piece :: split separates rest := by
  rw [split_append_separator hlast, split_of_none h, List.singleton_append]

end

/-- The pieces have the characters of the text but for the separators. -/
theorem of_mem_split {separates : Char → Bool} {cs piece : List Char}
    (hpiece : piece ∈ split separates cs) {c : Char} (hc : c ∈ piece) :
    c ∈ cs ∧ separates c = false := by
  fun_induction split separates cs generalizing piece with
  | case1 =>
    obtain rfl := List.mem_singleton.mp hpiece
    cases hc
  | case2 d cs hd ih =>
    rcases List.mem_cons.mp hpiece with rfl | hpiece
    · cases hc
    · exact (ih hpiece hc).imp_left (List.mem_cons_of_mem _)
  | case3 d cs hd hnil => exact absurd hnil (split_ne_nil _ _)
  | case4 d cs hd first pieces hsplit ih =>
    rw [hsplit] at ih
    rcases List.mem_cons.mp hpiece with rfl | hpiece
    · rcases List.mem_cons.mp hc with rfl | hc
      · exact ⟨List.mem_cons_self, by simpa using hd⟩
      · exact (ih List.mem_cons_self hc).imp_left (List.mem_cons_of_mem _)
    · exact (ih (List.mem_cons_of_mem _ hpiece) hc).imp_left (List.mem_cons_of_mem _)

end MailTemplate.Text
