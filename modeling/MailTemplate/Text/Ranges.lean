/-! Classes of characters, given as ranges of their codes. -/

namespace MailTemplate.Text

/-- The character lies in one of the ranges, which hold both of their ends. -/
def inRanges (ranges : List (Nat × Nat)) (c : Char) : Bool :=
  ranges.any fun (first, last) => first ≤ c.toNat && c.toNat ≤ last

end MailTemplate.Text
