import Rulebook.Number.Numeral
import Rulebook.Text.Letter

/-!
# Well-formed patterns

`Pattern.isWellFormed` says whether a text is a regular expression that an automaton can be built
for. Only the form is looked at: brackets close, what is repeated is there, escapes and flags are
known ones, ranges in classes go upward. A repetition by a count in braces is not taken, and neither
is a word boundary, for which there is no automaton over all letters.
-/

namespace Rulebook.Pattern

/-! ## Escapes -/

/-- What an escape stands for: one character, a set of them, or a place. -/
inductive Escape where
  | char (c : Char)
  | set
  | place

/-- The character of a code point written in a number of hexadecimal digits. -/
def hexEscape? (width : Nat) (cs : List Char) : Option (Escape × List Char) := do
  let digits := cs.take width
  if digits.length < width then none
  else
    let n ← digits.foldlM (fun n c => (hexDigit? c).map (n * 16 + ·)) 0
    if n.isValidChar then some (.char (Char.ofNat n), cs.drop width) else none

/-- Is the character ASCII, and neither a letter nor a digit nor an angle bracket? -/
def isPunctuation (c : Char) : Bool := c.toNat < 0x80 && !c.isAlphanum && c != '<' && c != '>'

/-- Reads an escape after its backslash. -/
def escape? : List Char → Option (Escape × List Char)
  | [] => none
  | 'x' :: rest => hexEscape? 2 rest
  | 'u' :: rest => hexEscape? 4 rest
  | 'U' :: rest => hexEscape? 8 rest
  | c :: rest =>
    if c = 'p' ∨ c = 'P' then
      match rest with
      | category :: rest =>
        if category.toUpper ∈ ['C', 'L', 'M', 'N', 'P', 'S', 'Z'] then some (.set, rest) else none
      | [] => none
    else if c ∈ ['d', 'D', 's', 'S', 'w', 'W'] then some (.set, rest)
    else if c ∈ ['a', 'f', 't', 'n', 'r', 'v'] ∨ isPunctuation c then some (.char c, rest)
    else if c = 'A' ∨ c = 'z' then some (.place, rest)
    else none

/-! ## Classes -/

/-- An end of a range in a class: a character, or a set, which cannot be one. -/
def classItem? : List Char → Option (Option Char × List Char)
  | [] => none
  | '\\' :: rest => do
    match ← escape? rest with
    | (.char c, rest) => some (some c, rest)
    | (.set, rest) => some (none, rest)
    | (.place, _) => none
  | c :: rest => some (some c, rest)

/-- Reads one item of a class, or a range of items. -/
def classRange? (cs : List Char) : Option (List Char) := do
  let (first, rest) ← classItem? cs
  match rest with
  | [] => none
  | '-' :: ']' :: _ | '-' :: '-' :: _ => some rest
  | '-' :: rest => do
    let (last, rest) ← classItem? rest
    if (← first) ≤ (← last) then some rest else none
  | _ => some rest

/-- The names of the classes that stand between colons. -/
def classNames : List String :=
  ["alnum", "alpha", "ascii", "blank", "cntrl", "digit", "graph", "lower", "print", "punct",
    "space", "upper", "word", "xdigit"]

/-- What follows a named class, if one stands here after an opening bracket. -/
def afterNamedClass? (cs : List Char) : Option (List Char) :=
  match cs with
  | ':' :: rest =>
    let name := rest.takeWhile (· != ':')
    let letters := match name with
      | '^' :: letters => letters
      | letters => letters
    match rest.dropWhile (· != ':') with
    | ':' :: ']' :: rest => if String.ofList letters ∈ classNames then some rest else none
    | _ => none
  | _ => none

/-- What follows the opening bracket of a class, a negation and the characters that stand for
themselves there. -/
def afterClassOpening (cs : List Char) : List Char :=
  let cs := match cs with
    | '^' :: rest => rest
    | cs => cs
  match cs with
  | '-' :: rest => rest.dropWhile (· == '-')
  | ']' :: rest => rest
  | cs => cs

/-- What follows the end of a class inside a number of others, in at most a number of steps. -/
def afterClass? : Nat → Nat → List Char → Option (List Char)
  | 0, _, _ => none
  | n + 1, depth, cs =>
    match cs with
    | [] => none
    | '[' :: rest =>
      match afterNamedClass? rest with
      | some rest => afterClass? n depth rest
      | none => afterClass? n (depth + 1) (afterClassOpening rest)
    | ']' :: rest =>
      match depth with
      | 0 => some rest
      | depth + 1 => afterClass? n depth rest
    | '&' :: '&' :: rest | '-' :: '-' :: rest | '~' :: '~' :: rest => afterClass? n depth rest
    | cs => (classRange? cs).bind (afterClass? n depth)

/-! ## Groups -/

/-- Are these flags, each once and at most one group of them taken back? -/
def areFlags (cs : List Char) : Bool :=
  cs.all (fun c => c ∈ ['i', 'm', 's', 'U', 'u', 'x', 'R', '-']) && cs.Nodup &&
    cs.getLast? != some '-'

/-- May the text be the name of a group? -/
def isGroupName : List Char → Bool
  | [] => false
  | c :: rest =>
    (c == '_' || (Text.isLetterOrNumeral c && !c.isDigit)) &&
      rest.all fun c => Text.isLetterOrNumeral c || c ∈ ['_', '.', '[', ']']

/-- The start of a group. -/
inductive Opening where
  | group (name : Option (List Char))
  /-- No group, but flags for what follows. -/
  | flags

/-- Reads the start of a group with a name. -/
def namedGroup? (cs : List Char) : Option (Opening × List Char) :=
  let name := cs.takeWhile (· != '>')
  match cs.dropWhile (· != '>') with
  | _ :: rest => if isGroupName name then some (.group (some name), rest) else none
  | [] => none

/-- Reads the start of a group after its parenthesis. -/
def opening? : List Char → Option (Opening × List Char)
  | '?' :: 'P' :: '<' :: rest => namedGroup? rest
  | '?' :: '<' :: rest => namedGroup? rest
  | '?' :: rest =>
    let flags := rest.takeWhile fun c => c != ')' && c != ':'
    match rest.dropWhile fun c => c != ')' && c != ':' with
    | ':' :: rest => if areFlags flags then some (.group none, rest) else none
    | ')' :: rest => if areFlags flags ∧ flags ≠ [] then some (.flags, rest) else none
    | _ => none
  | rest => some (.group none, rest)

/-! ## Patterns -/

/-- How far a pattern has been read. -/
structure Progress where
  /-- How many groups are open. -/
  depth : Nat := 0
  names : List (List Char) := []
  /-- Does something stand here that may be repeated? -/
  repeatable : Bool := false

/-- Is the rest of a pattern well-formed? Looks at it in at most a number of steps. -/
def restIsWellFormed : Nat → Progress → List Char → Bool
  | 0, _, _ => false
  | n + 1, p, cs =>
    match cs with
    | [] => p.depth == 0
    | '(' :: rest =>
      match opening? rest with
      | none => false
      | some (.flags, rest) => restIsWellFormed n { p with repeatable := false } rest
      | some (.group name, rest) =>
        if name.any (p.names.contains ·) then false
        else restIsWellFormed n ⟨p.depth + 1, name.toList ++ p.names, false⟩ rest
    | ')' :: rest => p.depth != 0 && restIsWellFormed n ⟨p.depth - 1, p.names, true⟩ rest
    | '|' :: rest => restIsWellFormed n { p with repeatable := false } rest
    | '[' :: rest =>
      match afterClass? (rest.length + 1) 0 (afterClassOpening rest) with
      | some rest => restIsWellFormed n { p with repeatable := true } rest
      | none => false
    | '\\' :: rest =>
      match escape? rest with
      | some (_, rest) => restIsWellFormed n { p with repeatable := true } rest
      | none => false
    | '\x7b' :: _ => false
    | c :: rest =>
      if c = '*' ∨ c = '+' ∨ c = '?' then p.repeatable && restIsWellFormed n p rest
      else restIsWellFormed n { p with repeatable := true } rest

end Pattern

/-- Is the text a regular expression? -/
def Pattern.isWellFormed (pattern : List Char) : Bool :=
  Pattern.restIsWellFormed (pattern.length + 1) {} pattern

example : Pattern.isWellFormed "a(b|[^x-z\\]]+?)*\\.".toList = true := by decide +kernel
example : Pattern.isWellFormed "(".toList = false := by decide +kernel
example : Pattern.isWellFormed "a|*".toList = false := by decide +kernel

end Rulebook
