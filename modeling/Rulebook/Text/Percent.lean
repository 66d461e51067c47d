/-!
# Percent encoding

Every byte of a text's UTF-8 form is written as a percent sign and two upper-case hexadecimal
digits, except the letters and digits of ASCII and `-`, `_`, `.`, `~`, which stand for themselves.
-/

namespace Rulebook.Text

/-- The characters that stand for themselves. -/
def isUnreserved (c : Char) : Bool :=
  c.isAlphanum || c == '-' || c == '_' || c == '.' || c == '~'

/-- A byte as a percent sign and two digits. -/
def percentByte (b : UInt8) : List Char :=
  let digit (n : Nat) := (Nat.digitChar n).toUpper
  ['%', digit (b.toNat / 16), digit (b.toNat % 16)]

def percentEncode (cs : List Char) : List Char :=
  cs.flatMap fun c =>
    if isUnreserved c then [c] else (String.utf8EncodeChar c).flatMap percentByte

example : percentEncode "a b/é".toList = "a%20b%2F%C3%A9".toList := by decide

end Rulebook.Text
