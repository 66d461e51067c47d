import Rulebook.Log
import Rulebook.Text.Blank
import Rulebook.Text.Pattern

/-!
# Log filters

A filter is a list of directives separated by commas. A directive names a level, a target and a
level joined by `=`, or a target alone, for which every level passes. Between brackets after the
target it may name a span and, in braces, fields with patterns for their values. A directive that
names a span or the value of a field speaks only of what happens inside spans; one that names just
fields speaks of the lines that have these.

Of the directives that speak of a line the most specific one decides: the one with the longest
target, one without a target counting as the shortest, then the one with the most fields. Of two
equal ones the later counts. With no directive nothing passes.
-/

namespace Rulebook

/-- How much passes a filter: nothing, or lines down to a severity of one to five. -/
structure FilterLevel where
  severity : Nat
  deriving DecidableEq

/-- The severity of a structured line, the most severe being one. -/
inductive Severity where
  | error
  | warn
  | info
  | debug
  | trace
  deriving DecidableEq

namespace Severity

def all : List Severity := [.error, .warn, .info, .debug, .trace]

def name : Severity → String
  | .error => "ERROR"
  | .warn => "WARN"
  | .info => "INFO"
  | .debug => "DEBUG"
  | .trace => "TRACE"

def rank : Severity → Nat
  | .error => 1
  | .warn => 2
  | .info => 3
  | .debug => 4
  | .trace => 5

def ofLevel : LogLevel → Severity
  | .verbose => .trace
  | .debug => .debug
  | .warning => .warn
  | .error => .error

end Severity

namespace FilterLevel

def off : FilterLevel := ⟨0⟩

def everything : FilterLevel := ⟨Severity.trace.rank⟩

/-- The level that a text names, by a number or by a word in any case. -/
def ofText? (text : String) : Option FilterLevel :=
  let word := text.toList.map Char.toLower
  let number := (readIndex? text.toList).filter (· ≤ Severity.trace.rank)
  let named := Severity.all.find? fun s => s.name.toList.map Char.toLower == word
  if word = [] then some ⟨Severity.error.rank⟩
  else if word = "off".toList then some off
  else number.map FilterLevel.mk <|> named.map fun s => ⟨s.rank⟩

/-- The level of a directive, where no text stands for every level. -/
def ofDirective? (text : String) : Option FilterLevel :=
  if text = "" then some everything else ofText? text

end FilterLevel

/-- A field that a directive names, and whether it asks for a value of the field. -/
structure FieldMatch where
  name : String
  hasValue : Bool

structure Directive where
  target : Option String := none
  /-- The span inside which the directive speaks. -/
  span : Option String := none
  fields : List FieldMatch := []
  level : FilterLevel := .everything

/-- Is the text a flag or a number? Any other value of a field is given by a pattern. -/
def isPlainValue (cs : List Char) : Bool :=
  cs = "true".toList || cs = "false".toList || (Numeral.read? cs).isSome

/-- Reads what is between the braces of a directive. -/
def FieldMatch.parse? (cs : List Char) : Option FieldMatch :=
  let name := String.ofList (cs.takeWhile (· != '='))
  match cs.dropWhile (· != '=') with
  | [] => if cs = [] then none else some ⟨name, false⟩
  | _ :: rest =>
    let value := rest.takeWhile (· != '=')
    if isPlainValue value || Pattern.isWellFormed value then some ⟨name, true⟩ else none

/-! ## Reading a directive

White space around a directive is skipped, but its parts are cut out of the text before skipping,
at the places that they have after it. So a directive with white space before it rarely names what
it seems to name.
-/

/-- The characters from a byte on. -/
def dropBytes : Nat → List Char → List Char
  | 0, cs => cs
  | _, [] => []
  | n, c :: rest => dropBytes (n - c.utf8Size) rest

/-- The characters that start in a number of bytes. -/
def takeBytes : Nat → List Char → List Char
  | 0, _ => []
  | _, [] => []
  | n, c :: rest => c :: takeBytes (n - c.utf8Size) rest

/-- The text between two bytes. -/
def slice (cs : List Char) (first last : Nat) : List Char :=
  takeBytes (last - first) (dropBytes first cs)

/-- The part of a directive that is being read, with the byte at which it starts. -/
inductive DirectivePart where
  | opening
  | levelOrTarget (start : Nat)
  | span (start : Nat)
  | field (start : Nat)
  | afterFields
  | afterBrackets
  | level (start : Nat)

namespace Directive

/-- May a directive start with the character, if not with a bracket? -/
def mayStart (c : Char) : Bool := Text.isLetterOrNumeral c || c == '-' || c == ':' || c == '_'

/-- The directive when its text ends in a part. -/
def finish? (given : List Char) (d : Directive) : DirectivePart → Option Directive
  | .levelOrTarget start =>
    let text := String.ofList (dropBytes start given)
    match FilterLevel.ofText? text with
    | some level => some { d with level }
    | none => some { d with target := some text }
  | .level start =>
    (FilterLevel.ofDirective? (String.ofList (dropBytes start given))).map fun level =>
      { d with level }
  | .afterBrackets => some d
  | .opening | .span _ | .field _ | .afterFields => none

/-- Reads one character, which starts at a byte, in a part of a directive. -/
def step? (given : List Char) (byte : Nat) (c : Char) (d : Directive) :
    DirectivePart → Option (Directive × DirectivePart)
  | .opening =>
    if c = '[' then some (d, .span (byte + 1))
    else if mayStart c then some (d, .levelOrTarget byte)
    else none
  | .levelOrTarget start =>
    let named := { d with target := some (String.ofList (slice given start byte)) }
    if c = '=' then some (named, .level (byte + 1))
    else if c = '[' then some (named, .span (byte + 1))
    else some (d, .levelOrTarget start)
  | .span start =>
    let name := slice given start byte
    if c = ']' then some ({ d with span := some (String.ofList name) }, .afterBrackets)
    else if c = '\x7b' then
      let span := if name = [] then none else some (String.ofList name)
      some ({ d with span }, .field (byte + 1))
    else some (d, .span start)
  | .field start =>
    if c = '\x7d' then
      (FieldMatch.parse? (slice given start byte)).map fun field =>
        ({ d with fields := d.fields ++ [field] }, .afterFields)
    else some (d, .field start)
  | .afterFields => if c = ']' then some (d, .afterBrackets) else none
  | .afterBrackets => if c = '=' then some (d, .level (byte + 1)) else none
  | .level start => some (d, .level start)

/-- Reads the rest of a directive, which starts at a byte. -/
def readRest? (given : List Char) (byte : Nat) (d : Directive) (part : DirectivePart) :
    List Char → Option Directive
  | [] => finish? given d part
  | c :: rest => do
    let (d, part) ← step? given byte c d part
    readRest? given (byte + c.utf8Size) d part rest

def parse? (text : List Char) : Option Directive :=
  readRest? text 0 {} .opening (Text.trim text)

/-! ## Deciding by directives -/

/-- Does the directive speak of lines outside of spans? -/
def isStatic (d : Directive) : Bool := d.span.isNone && d.fields.all fun f => !f.hasValue

/-- Does the directive speak of lines with this target and these fields? -/
def covers (d : Directive) (target : String) (fields : List String) : Bool :=
  d.isStatic && (d.target.elim true fun t => t.toList.isPrefixOf target.toList) &&
    d.fields.all fun f => fields.contains f.name

/-- How specific a directive is: by its target, the number of its fields and their names. -/
def specificity (d : Directive) : Nat × Nat × List String :=
  (d.target.elim 0 fun t => t.utf8ByteSize + 1, d.fields.length, d.fields.map FieldMatch.name)

/-- Is the second directive at least as specific as the first? -/
def yields (d e : Directive) : Bool :=
  let (targetD, countD, namesD) := d.specificity
  let (targetE, countE, namesE) := e.specificity
  (compare targetD targetE).then ((compare countD countE).then (compare namesD namesE)) != .gt

end Directive

structure Filter where
  directives : List Directive

namespace Filter

def parse? (text : String) : Option Filter := do
  let parts := (text.toList.splitOn ',').filter (· ≠ [])
  return ⟨← parts.mapM Directive.parse?⟩

/-- The directive that decides about lines with a target and fields. -/
def deciding? (f : Filter) (target : String) (fields : List String) : Option Directive :=
  (f.directives.filter fun d => d.covers target fields).foldl (fun best d =>
    match best with
    | none => some d
    | some b => if b.yields d then some d else some b) none

/-- Does a line pass? -/
def passes (f : Filter) (severity : Severity) (target : String) (fields : List String) : Bool :=
  (f.deciding? target fields).any fun d => severity.rank ≤ d.level.severity

end Filter
end Rulebook
