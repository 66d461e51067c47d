import Rulebook.Context
import Rulebook.Json.Printer
import Rulebook.Template.Scan

/-!
# Filling in a template

Each placeholder of a template is replaced by its value: a string as it is, nothing for `null` or
no value, and the compact JSON text of any other value. What is put in is not looked at again. A
template that cannot be split is left as it is, and nothing is looked up.
-/

namespace Rulebook

/-- The text that a value puts in the place of a placeholder. -/
def Value.inserted : Option Value → String
  | none | some .null => ""
  | some (.str s) => s
  | some v => v.text

def Segment.fill (ctx : Context) : Segment → Run String
  | .text s => pure s
  | .placeholder _ p => do return Value.inserted (← p.resolve ctx)

/-- Fills in segments one after the other. -/
def fillSegments (ctx : Context) : List Segment → Run String
  | [] => pure ""
  | s :: rest => do
    let text ← s.fill ctx
    return text ++ (← fillSegments ctx rest)

def Template.fill (d : Delimiters) (ctx : Context) (template : String) : Run String := do
  match ← Run.ofLogged (Template.split d template) with
  | some segments => fillSegments ctx segments
  | none =>
    .tell (.log ⟨.warning, "TokenReplacer",
      s!"Unable to parse template '{template}', leaving it unchanged"⟩)
    return template

end Rulebook
