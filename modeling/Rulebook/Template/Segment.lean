import Rulebook.Template.Delimiters
import Rulebook.Template.Placeholder

/-!
# The segments of a template

A template is a list of texts and placeholders; `render` writes it out again. A placeholder's
segment keeps its content as written, since reading it drops what follows its last parenthesis.
-/

namespace Rulebook

inductive Segment where
  | text (s : String)
  | placeholder (content : String) (p : Placeholder)
  deriving DecidableEq

namespace Segment

/-- The segment of a content as it stands between the tags. -/
def ofContent (content : String) : Segment := .placeholder content (.parse content)

def placeholder? : Segment → Option Placeholder
  | .text _ => none
  | .placeholder _ p => some p

def render (d : Delimiters) : Segment → String
  | .text s => s
  | .placeholder content _ => d.wrap content

end Segment

/-- The template that the segments make up. -/
def renderAll (d : Delimiters) (segments : List Segment) : String :=
  String.join (segments.map (Segment.render d))

end Rulebook
