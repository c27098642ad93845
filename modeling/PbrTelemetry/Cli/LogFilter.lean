import PbrTelemetry.Text.Alphanumeric
import PbrTelemetry.Text.Blank
import PbrTelemetry.Text.Cut
import PbrTelemetry.Text.Reader

/-!
# Log filters

A log filter is a list of directives with commas between them.  A directive sets a level for all
reports, or for those whose origin begins with its target and that have the field it names.  It has
one of the forms

    level
    target        target=level
    target[span{field}]        target[span{field}]=level

and in the last two the target, the span and the field with its braces can be missing.

Where no level is given, everything is logged.  Of several directives for one report the one with
the longest target counts, and of those one that names a field.  A directive for a span, or for a
value of a field, has no part in the choice, since only spans can be chosen that way.

Blanks around a directive are passed over, but they belong to what stands next to them: a target
with a blank in front names no origin, and a level with a blank is none.
-/

namespace PbrTelemetry.Cli

inductive LogLevel where
  | off
  | error
  | warn
  | info
  | debug
  | trace
  deriving DecidableEq, Repr

def LogLevel.all : List LogLevel := [off, error, warn, info, debug, trace]

def LogLevel.name : LogLevel → String
  | off => "off"
  | error => "error"
  | warn => "warn"
  | info => "info"
  | debug => "debug"
  | trace => "trace"

def LogLevel.ofText? (text : List Char) : Option LogLevel :=
  match Text.word? text with
  | some n => all[n.toNat]?
  | none => all.find? fun level => level.name.toList = text.map Char.toLower

structure LogDirective where
  /-- How the origin of the reports begins. -/
  target : List Char := []
  /-- A field that the reports must have, unless it is empty. -/
  field : String := ""
  /-- Whether only spans can be chosen that way. -/
  forSpans : Bool := false
  level : LogLevel := .trace
  deriving DecidableEq, Repr

structure LogReport where
  origin : List Char
  fields : List String
  deriving DecidableEq, Repr

namespace LogDirective

/-! ## Reading -/

def beginsTarget (c : Char) : Bool := c = '-' || c = ':' || c = '_' || Text.isAlphanumeric c

def withLevel? (d : LogDirective) : List Char → Option LogDirective
  | [] => some d
  | ['='] => some d
  | '=' :: level => (LogLevel.ofText? level).map fun level => { d with level }
  | _ => none

def withField? (d : LogDirective) (text : List Char) : Option LogDirective :=
  if text.isEmpty then none
  else if text.contains '=' then some { d with forSpans := true }
  else some { d with field := String.ofList text }

def withScope? (d : LogDirective) (text : List Char) : Option (LogDirective × List Char) :=
  let endsSpan (c : Char) : Bool := c = ']' || c = '\x7b'
  match text.dropWhile fun c => !endsSpan c with
  | ']' :: rest => some ({ d with forSpans := true }, rest)
  | '\x7b' :: rest =>
    let d := { d with forSpans := !(text.takeWhile fun c => !endsSpan c).isEmpty }
    match Text.cut '\x7d' rest with
    | some (field, ']' :: rest) => (d.withField? field).map fun d => (d, rest)
    | _ => none
  | _ => none

/-- Read a directive.  The blanks around it are `before` and `after`. -/
def ofParts? (before body after : List Char) : Option LogDirective :=
  let tail (text : List Char) : List Char :=
    if text.isEmpty then [] else before ++ text ++ after
  match body with
  | [] => none
  | '[' :: rest => do
    let (d, rest) ← withScope? { target := before } rest
    d.withLevel? (tail rest)
  | c :: _ =>
    if !beginsTarget c then none
    else
      let target := body.takeWhile fun c => c ≠ '=' && c ≠ '['
      match body.dropWhile fun c => c ≠ '=' && c ≠ '[' with
      | '[' :: rest => do
        let (d, rest) ← withScope? { target := before ++ target } rest
        d.withLevel? (tail rest)
      | '=' :: level => withLevel? { target := before ++ target } (tail ('=' :: level))
      | _ =>
        let whole := before ++ body ++ after
        match LogLevel.ofText? whole with
        | some level => some { level }
        | none => some { target := whole }

def parse? (text : List Char) : Option LogDirective :=
  let before := text.takeWhile Text.isBlank
  let after := (text.reverse.takeWhile Text.isBlank).reverse
  ofParts? before (Text.trim text) after

/-! ## Choosing -/

def concerns (d : LogDirective) (report : LogReport) : Bool :=
  !d.forSpans && d.target.isPrefixOf report.origin
    && (d.field.isEmpty || report.fields.contains d.field)

/-- Whether a directive counts when another one for the same report stands in front of it: it has
the longer target, or the same one and a field that does not come first in the order of names. -/
def overrules (d earlier : LogDirective) : Bool :=
  earlier.target.length < d.target.length
    || (earlier.target.length = d.target.length && decide (earlier.field ≤ d.field))

end LogDirective

abbrev LogFilter := List LogDirective

namespace LogFilter

/-- Read a log filter.  Two commas may stand next to each other. -/
def parse? (text : String) : Option LogFilter :=
  ((Text.pieces ',' text.toList).filter fun piece => !piece.isEmpty).mapM LogDirective.parse?

/-- The first filter that can be read: the one that the surroundings set, if there is one, or the
argument. -/
def choose? (surroundings : Option String) (argument : String) : Option LogFilter :=
  match surroundings.bind parse? with
  | some filter => some filter
  | none => parse? argument

def directiveFor? (filter : LogFilter) (report : LogReport) : Option LogDirective :=
  (filter.filter (·.concerns report)).foldl (fun best d =>
    match best with
    | some earlier => if d.overrules earlier then some d else some earlier
    | none => some d) none

/-- The level for a report.  Without a directive for it nothing is logged. -/
def levelFor (filter : LogFilter) (report : LogReport) : LogLevel :=
  match filter.directiveFor? report with
  | some d => d.level
  | none => .off

def endReport : LogReport :=
  { origin := "gnmi_pbr_stats".toList, fields := ["message", "error"] }

def showsErrors (filter : LogFilter) : Bool := filter.levelFor endReport ≠ .off

end LogFilter

end PbrTelemetry.Cli
