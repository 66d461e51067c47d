import Rulebook.Text.CaseTable

/-!
# Full lower-casing

Each character is replaced by its lower case, which is one character except for a capital I with
a dot above, whose dot is kept as a mark of its own. A capital sigma has two lower cases: the one
for the end of a word is taken where a letter stands before it and none after it, case-ignorable
characters not counting as an end. So the lower case of a text is not, in general, made of the
lower cases of its parts.
-/

namespace Rulebook.Text

/-- Is the code point in one of the ranges? -/
def inRanges (ranges : List (Nat × Nat)) (n : Nat) : Bool :=
  ranges.any fun (first, last) => first ≤ n && n ≤ last

/-- The lower case of a character wherever it stands. -/
def lowerChar (c : Char) : List Char :=
  if c = '\u0130' then ['i', '\u0307']
  else
    let n := c.toNat
    match lowerShifts.find? fun (first, last, step, _) =>
        first ≤ n && n ≤ last && (n - first) % step == 0 with
    | some (_, _, _, shift) => [Char.ofNat (n + shift).toNat]
    | none => [c]

/-- Is the first character that is not case-ignorable a cased one? -/
def meetsLetter (cs : List Char) : Bool :=
  match cs.dropWhile fun c => inRanges caseIgnorableRanges c.toNat with
  | [] => false
  | c :: _ => inRanges casedRanges c.toNat

/-- Is a character between these two stretches, the first one read backwards, the last letter of
a word? -/
def endsWord (before after : List Char) : Bool := meetsLetter before && !meetsLetter after

/-- The lower case of a text that stands after `before`, which is given backwards. -/
def lowerAfter (before : List Char) : List Char → List Char
  | [] => []
  | c :: rest =>
    (if c = 'Σ' then [if endsWord before rest then 'ς' else 'σ'] else lowerChar c) ++
      lowerAfter (c :: before) rest

/-- The lower case of a whole text. -/
def lowercase (cs : List Char) : List Char := lowerAfter [] cs

example : lowercase "ÀΣ Σ ΑΣΒ".toList = "àς σ ασβ".toList := by decide +kernel

end Rulebook.Text
