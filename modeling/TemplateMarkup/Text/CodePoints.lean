namespace TemplateMarkup.Text

-- A set of characters, given as inclusive ranges of code points in ascending order.
abbrev CodePoints := List (Nat × Nat)

namespace CodePoints

def contains (set : CodePoints) (c : Char) : Bool :=
  set.any fun range => range.1 ≤ c.toNat && c.toNat ≤ range.2

theorem contains_iff (set : CodePoints) (c : Char) :
    set.contains c = true ↔ ∃ range ∈ set, range.1 ≤ c.toNat ∧ c.toNat ≤ range.2 := by
  simp [contains]

end CodePoints

end TemplateMarkup.Text
