import Rulebook.Text.EscapeTable
import Rulebook.Text.Lowercase

/-!
# Quoted text in messages

A text is quoted so that every character of it can be seen: the quote and the backslash are
escaped by a backslash, a tab, the two line ends and the null by a letter or digit, and a
character without a visible form of its own by its number.
-/

namespace Rulebook.Text

def escapeInQuotes (c : Char) : List Char :=
  match c with
  | '"' => ['\\', '"']
  | '\\' => ['\\', '\\']
  | '\t' => ['\\', 't']
  | '\n' => ['\\', 'n']
  | '\r' => ['\\', 'r']
  | '\x00' => ['\\', '0']
  | c =>
    if inRanges invisibleRanges c.toNat then
      ['\\', 'u', '\x7b'] ++ Nat.toDigits 16 c.toNat ++ ['\x7d']
    else [c]

/-- The text between quotes. -/
def quoted (s : String) : String :=
  String.ofList ('"' :: s.toList.flatMap escapeInQuotes ++ ['"'])

example : quoted "a\"\t\u200b" = "\"a\\\"\\t\\u\x7b200b\x7d\"" := by decide +kernel

end Rulebook.Text
