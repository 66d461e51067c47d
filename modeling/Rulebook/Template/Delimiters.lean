/-!
# Delimiters

The two tags between which a placeholder stands in a template. Neither may be empty, or a template
would hold a placeholder between any two characters; they may be equal or overlap.
-/

namespace Rulebook

structure Delimiters where
  opening : String
  closing : String
  opening_ne : opening ≠ ""
  closing_ne : closing ≠ ""

/-- The pair of tags that is refused because one of them is empty. -/
structure EmptyTag where
  opening : String
  closing : String
  deriving DecidableEq

def EmptyTag.message (e : EmptyTag) : String :=
  "无效的定界符: 起止定界符不能为空: start='" ++ e.opening ++ "', end='" ++ e.closing ++ "'"

namespace Delimiters

def make (opening closing : String) : Except EmptyTag Delimiters :=
  if h : opening ≠ "" ∧ closing ≠ "" then .ok ⟨opening, closing, h.1, h.2⟩
  else .error ⟨opening, closing⟩

/-- Two opening and two closing braces. -/
def braces : Delimiters where
  opening := "\x7b\x7b"
  closing := "\x7d\x7d"
  opening_ne := by decide
  closing_ne := by decide

/-- A content between the tags. -/
def wrap (d : Delimiters) (content : String) : String := d.opening ++ content ++ d.closing

end Delimiters
end Rulebook
