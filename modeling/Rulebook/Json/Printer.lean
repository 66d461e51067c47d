import Rulebook.Json.Value
import Rulebook.Number.Shortest

/-!
# The compact text of a value

No space is written anywhere. In a string only the quote, the backslash and the characters below
the space are escaped, by a letter where there is one and otherwise by four lower-case
hexadecimal digits.
-/

namespace Rulebook

/-- A whole number in decimal. -/
def wholeText (i : Int) : List Char :=
  if i < 0 then '-' :: Nat.toDigits 10 i.natAbs else Nat.toDigits 10 i.natAbs

def Number.text : Number → List Char
  | .whole i _ => wholeText i
  | .real x => x.text

namespace Value

def escapeInString (c : Char) : List Char :=
  match c with
  | '"' => ['\\', '"']
  | '\\' => ['\\', '\\']
  | '\x08' => ['\\', 'b']
  | '\x0c' => ['\\', 'f']
  | '\n' => ['\\', 'n']
  | '\r' => ['\\', 'r']
  | '\t' => ['\\', 't']
  | c =>
    if c.toNat < 0x20 then
      ['\\', 'u', '0', '0', Nat.digitChar (c.toNat / 16), Nat.digitChar (c.toNat % 16)]
    else [c]

def stringText (s : String) : List Char := '"' :: s.toList.flatMap escapeInString ++ ['"']

mutual

def chars : Value → List Char
  | .null => "null".toList
  | .bool true => "true".toList
  | .bool false => "false".toList
  | .num n => n.text
  | .str s => stringText s
  | .arr elements => '[' :: elementsText elements ++ [']']
  | .obj members => '\x7b' :: membersText members ++ ['\x7d']

def elementsText : List Value → List Char
  | [] => []
  | [v] => chars v
  | v :: w :: rest => chars v ++ ',' :: elementsText (w :: rest)

def membersText : List (String × Value) → List Char
  | [] => []
  | [(k, v)] => stringText k ++ ':' :: chars v
  | (k, v) :: m :: rest => stringText k ++ ':' :: (chars v ++ ',' :: membersText (m :: rest))

end

/-- The compact JSON text. -/
def text (v : Value) : String := String.ofList v.chars

end Value
end Rulebook
