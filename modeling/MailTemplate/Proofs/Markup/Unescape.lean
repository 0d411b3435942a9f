import Mathlib.Data.List.Basic
import MailTemplate.Markup.Escape

/-! # Reading escaped text back

A character is written as a code that starts with `&` or `<`, or as itself where it is neither of
these (`escapeChar_cases`). So what is at the head of an escaped text says which character it stands
for, and the whole text is read back from left to right, whatever is behind it
(`unescapeChars_escape_append`). -/

namespace MailTemplate.Markup

/-- The codes with what they stand for. -/
def codes : List (List Char × Char) :=
  [("&amp;".toList, '&'), ("&lt;".toList, '<'), ("&gt;".toList, '>'), ("&quot;".toList, '"'),
    ("&#039;".toList, '\x27'), ("<br>".toList, '\n')]

theorem code_ne_nil {code : List Char} {meant : Char} (h : (code, meant) ∈ codes) : code ≠ [] := by
  have hall : ∀ entry ∈ codes, entry.1 ≠ [] := by decide
  exact hall _ h

/-- What the code at the head of a text stands for, and the text behind it. -/
def readCode? (cs : List Char) : Option (Char × List Char) :=
  codes.findSome? fun (code, meant) => (cs.dropPrefix? code).map (meant, ·)

theorem length_lt_of_readCode? {cs rest : List Char} {meant : Char}
    (h : readCode? cs = some (meant, rest)) : rest.length < cs.length := by
  obtain ⟨⟨code, c⟩, hcode, hread⟩ := List.exists_of_findSome?_eq_some h
  obtain ⟨behind, hdrop, heq⟩ := Option.map_eq_some_iff.mp hread
  obtain ⟨-, rfl⟩ := Prod.mk.inj heq
  obtain ⟨first, rfl, hfirst⟩ := List.dropPrefix?_eq_some_iff.mp hdrop
  obtain rfl := eq_of_beq hfirst
  have hpos : 0 < first.length := List.length_pos_iff.mpr (code_ne_nil hcode)
  rw [List.length_append]
  omega

/-- A text with every code in it replaced, from left to right. What has been replaced is not looked
at again, and all other characters stay. -/
def unescapeChars : List Char → List Char
  | [] => []
  | c :: cs =>
    match _h : readCode? (c :: cs) with
    | some (meant, rest) => meant :: unescapeChars rest
    | none => c :: unescapeChars cs
termination_by cs => cs.length
decreasing_by
  · exact length_lt_of_readCode? _h
  · simp

def unescape (text : String) : String :=
  String.ofList (unescapeChars text.toList)

section

variable {cs rest : List Char} {c meant : Char}

theorem unescapeChars_of_some (h : readCode? (c :: cs) = some (meant, rest)) :
    unescapeChars (c :: cs) = meant :: unescapeChars rest := by
  rw [unescapeChars]
  split
  · next hread =>
    rw [hread] at h
    cases h
    rfl
  · next hread =>
    rw [hread] at h
    cases h

theorem unescapeChars_of_none (h : readCode? (c :: cs) = none) :
    unescapeChars (c :: cs) = c :: unescapeChars cs := by
  rw [unescapeChars]
  split
  · next hread =>
    rw [hread] at h
    cases h
  · rfl

end

/-! ## One character -/

/-- No code is a beginning of another one. -/
theorem readCode?_of_mem {code : List Char} {meant : Char} (h : (code, meant) ∈ codes)
    (rest : List Char) : readCode? (code ++ rest) = some (meant, rest) := by
  simp only [codes, List.mem_cons, Prod.mk.injEq, List.not_mem_nil, or_false] at h
  rcases h with ⟨rfl, rfl⟩ | ⟨rfl, rfl⟩ | ⟨rfl, rfl⟩ | ⟨rfl, rfl⟩ | ⟨rfl, rfl⟩ | ⟨rfl, rfl⟩ <;>
    simp [readCode?, codes, List.dropPrefix?]

theorem readCode?_plain {c : Char} (hentity : c ≠ '&') (htag : c ≠ '<') (cs : List Char) :
    readCode? (c :: cs) = none := by
  simp [readCode?, codes, List.dropPrefix?, hentity, htag]

theorem escapeChar_cases (c : Char) :
    ((escapeChar c).toList, c) ∈ codes ∨ (escapeChar c).toList = [c] ∧ c ≠ '&' ∧ c ≠ '<' := by
  unfold escapeChar
  split
  iterate 6 exact .inl (by decide)
  next hentity htag _ _ _ _ => exact .inr ⟨String.toList_singleton c, hentity, htag⟩

theorem unescapeChars_escapeChar_append (c : Char) (cs : List Char) :
    unescapeChars ((escapeChar c).toList ++ cs) = c :: unescapeChars cs := by
  rcases escapeChar_cases c with hcode | ⟨hself, hentity, htag⟩
  · obtain ⟨first, code, hfirst⟩ := List.exists_cons_of_ne_nil (code_ne_nil hcode)
    have hread := readCode?_of_mem hcode cs
    rw [hfirst, List.cons_append] at hread ⊢
    exact unescapeChars_of_some hread
  · rw [hself, List.singleton_append]
    exact unescapeChars_of_none (readCode?_plain hentity htag cs)

/-! ## Texts -/

theorem unescapeChars_escape_append (text : String) (behind : List Char) :
    unescapeChars ((escape text).toList ++ behind) = text.toList ++ unescapeChars behind := by
  have htext : (escape text).toList = text.toList.flatMap fun c => (escapeChar c).toList := by
    rw [escape, String.toList_join, List.flatMap_map]
  rw [htext]
  induction text.toList with
  | nil => rfl
  | cons c cs ih =>
    rw [List.flatMap_cons, List.append_assoc, unescapeChars_escapeChar_append, ih, List.cons_append]

theorem unescape_escape (text : String) : unescape (escape text) = text := by
  have hnil : unescapeChars [] = [] := by rw [unescapeChars]
  have hread := unescapeChars_escape_append text []
  rw [hnil, List.append_nil, List.append_nil] at hread
  rw [unescape, hread, String.ofList_toList]

/-- Escaped text is read back whole from left to right, whatever is in it and behind it. So texts
that are not the same are not shown in the same way, anywhere in a document. -/
theorem escape_decodable :
    (∀ text, unescape (escape text) = text) ∧
      (∀ text behind,
        unescapeChars ((escape text).toList ++ behind) = text.toList ++ unescapeChars behind) ∧
      Function.Injective escape ∧
      ∀ before behind, Function.Injective fun text => before ++ escape text ++ behind := by
  have hinjective : Function.Injective escape := Function.LeftInverse.injective unescape_escape
  refine ⟨unescape_escape, unescapeChars_escape_append, hinjective, fun before behind s t h => ?_⟩
  have hlist := congrArg String.toList h
  simp only [String.toList_append, List.append_assoc] at hlist
  have hescaped := List.append_cancel_right (List.append_cancel_left hlist)
  exact hinjective (String.toList_injective hescaped)

end MailTemplate.Markup
