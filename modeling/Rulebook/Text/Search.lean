/-!
# Searching in a text

`contains pattern text` says that `pattern` is a contiguous part of `text` (`contains_iff`).
-/

namespace Rulebook.Text

/-- Does the pattern stand somewhere in the text? -/
def contains (pattern : List Char) : List Char → Bool
  | [] => pattern.isEmpty
  | c :: rest => pattern.isPrefixOf (c :: rest) || contains pattern rest

theorem contains_iff {pattern text : List Char} :
    contains pattern text = true ↔ pattern <:+: text := by
  induction text with
  | nil => simp [contains]
  | cons c rest ih => simp [contains, ih, List.infix_cons_iff]

end Rulebook.Text
