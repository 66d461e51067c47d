/-!
# Placeholders

A placeholder refers to a path, or calls a named function on another placeholder. In writing, a
call is a name followed by its argument in parentheses. The parentheses of a call are the first
opening one and the last closing one, whatever stands between them, as long as something does; a
content without such a pair is a path. Whatever follows the last closing parenthesis is dropped.
-/

namespace Rulebook

inductive Placeholder where
  | ref (path : String)
  | call (name : String) (argument : Placeholder)
  deriving DecidableEq

namespace Placeholder

/-- What stands before the last occurrence of a character, if there is one. -/
def beforeLast? (c : Char) (cs : List Char) : Option (List Char) :=
  match cs.reverse.dropWhile (· != c) with
  | [] => none
  | _ :: before => some before.reverse

/-- The name and the argument of a call. -/
def splitCall? (cs : List Char) : Option (List Char × List Char) :=
  match cs.dropWhile (· != '(') with
  | [] => none
  | _ :: inside =>
    match beforeLast? ')' inside with
    | none | some [] => none
    | some argument => some (cs.takeWhile (· != '('), argument)

theorem length_beforeLast?_le {c : Char} {cs before : List Char}
    (h : beforeLast? c cs = some before) : before.length ≤ cs.length := by
  unfold beforeLast? at h
  split at h
  · cases h
  · next heq =>
    cases h
    have hlen := (List.dropWhile_sublist (l := cs.reverse) (· != c)).length_le
    simp only [heq, List.length_cons, List.length_reverse] at hlen ⊢
    omega

theorem length_lt_of_splitCall? {cs name argument : List Char}
    (h : splitCall? cs = some (name, argument)) : argument.length < cs.length := by
  unfold splitCall? at h
  split at h
  · cases h
  · next heq =>
    have hlen := (List.dropWhile_sublist (l := cs) (· != '(')).length_le
    simp only [heq, List.length_cons] at hlen
    split at h
    · cases h
    · cases h
    · next hlast =>
      cases h
      have := length_beforeLast?_le hlast
      omega

/-- The placeholder that a content writes. -/
def parseChars (cs : List Char) : Placeholder :=
  match h : splitCall? cs with
  | none => .ref (String.ofList cs)
  | some (name, argument) =>
    have := length_lt_of_splitCall? h
    .call (String.ofList name) (parseChars argument)
termination_by cs.length

def parse (content : String) : Placeholder := parseChars content.toList

/-- The placeholder in writing. -/
def content : Placeholder → String
  | .ref path => path
  | .call name argument => name ++ "(" ++ argument.content ++ ")"

/-- The path that the placeholder refers to at its innermost. -/
def path : Placeholder → String
  | .ref path => path
  | .call _ argument => argument.path

/-- The names of the functions called, the outermost first. -/
def calls : Placeholder → List String
  | .ref _ => []
  | .call name argument => name :: argument.calls

end Placeholder
end Rulebook
