import Rulebook.Template.Segment
import Rulebook.Trace

/-!
# Splitting a template

A scanner walks a template from left to right. Outside a placeholder it looks for the opening tag,
inside one for the closing tag, and in either case it takes the first one that comes. Each step
takes a whole tag or one character, so a template is scanned in at most as many steps as it has
characters. A template whose last placeholder is not closed has no segments at all.
-/

namespace Rulebook

/-- Where the scanner is: at the start of a segment, in a text, or in a placeholder. -/
inductive Phase where
  | start
  | text
  | tag
  deriving DecidableEq

/-- A scan under way: the segments found and the characters of the segment under way, both last
first, and the characters not yet looked at. -/
structure Scan where
  phase : Phase
  found : List Segment
  span : List Char
  rest : List Char

namespace Scan

def init (template : List Char) : Scan := ⟨.start, [], [], template⟩

/-- The text that the span makes up. -/
def spanText (s : Scan) : String := String.ofList s.span.reverse

/-- The segments found, the span counting as a text unless it is empty. -/
def foundWithText (s : Scan) : List Segment :=
  if s.span.isEmpty then s.found else .text s.spanText :: s.found

/-- One step of the scanner. -/
def step (d : Delimiters) (s : Scan) : Scan :=
  match s.rest with
  | [] => s
  | c :: rest =>
    match s.phase with
    | .tag =>
      if d.closing.toList.isPrefixOf s.rest then
        ⟨.start, .ofContent s.spanText :: s.found, [], s.rest.drop d.closing.length⟩
      else ⟨.tag, s.found, c :: s.span, rest⟩
    | .start | .text =>
      if d.opening.toList.isPrefixOf s.rest then
        ⟨.tag, s.foundWithText, [], s.rest.drop d.opening.length⟩
      else ⟨.text, s.found, c :: s.span, rest⟩

/-- A number of steps. -/
def advance (d : Delimiters) : Nat → Scan → Scan
  | 0, s => s
  | n + 1, s => advance d n (s.step d)

/-- The segments at the end of a template, if no placeholder is open there. -/
def segments? (s : Scan) : Option (List Segment) :=
  match s.phase with
  | .tag => none
  | .start | .text => some s.foundWithText.reverse

end Scan

namespace Template

/-- The segments of a template, or `none` when a placeholder in it is not closed. -/
def segments? (d : Delimiters) (template : String) : Option (List Segment) :=
  ((Scan.init template.toList).advance d template.length).segments?

/-- Splits a template, and says so when a placeholder in it is not closed. -/
def split (d : Delimiters) (template : String) : Logged (Option (List Segment)) := do
  match segments? d template with
  | none =>
    .tell ⟨.debug, "Tokenizer",
      s!"Unterminated token in template '{template}', discarding segments"⟩
    return none
  | some segments => return some segments

end Template

/-- The placeholder that a text stands for, given its segments as a template: the one placeholder
among them if there is exactly one, and otherwise the whole text read as a content. -/
def Placeholder.ofSegments (text : String) (segments : Option (List Segment)) : Placeholder :=
  match (segments.getD []).filterMap Segment.placeholder? with
  | [p] => p
  | _ => .parse text

end Rulebook
