import Autoformat.Log
import Autoformat.Text.Blank
import Autoformat.Text.Search

/-!
# Which entries of the log are shown

A `Filter` is a list of directives, which the variable `RUST_LOG` gives between commas. A directive names a
part of the program, a span with a field of it, or both, and how much is shown of that. `Filter.ofText?`
reads a filter, and `Filter.shown?` says what is left of an entry.

The most specific directive that fits an event decides about it. A directive that names a span shows the
span itself whatever its threshold is, and the events in the span up to the threshold.
-/

namespace Autoformat.Log

/-- The most that is shown, from nothing up to everything. -/
inductive Threshold where
  | off
  | error
  | warn
  | info
  | debug
  | trace
  deriving DecidableEq, Repr

namespace Threshold

/-- The thresholds in their order. -/
def all : List Threshold := [.off, .error, .warn, .info, .debug, .trace]

/-- The place in the order. -/
def rank : Threshold → Nat
  | .off => 0
  | .error => 1
  | .warn => 2
  | .info => 3
  | .debug => 4
  | .trace => 5

/-- The name of a threshold. -/
def name : Threshold → String
  | .off => "off"
  | .error => "error"
  | .warn => "warn"
  | .info => "info"
  | .debug => "debug"
  | .trace => "trace"

/-- The threshold that a text names, by its number or by its name in any case. -/
def ofText? (s : String) : Option Threshold :=
  let cs := s.toList
  let digits := if cs.head? = some '+' then cs.drop 1 else cs
  if !digits.isEmpty && digits.all Char.isDigit then
    all[digits.foldl (fun n c => 10 * n + (c.toNat - '0'.toNat)) 0]?
  else if s = "" then some .error
  else all.find? fun t => t.name = s.map Char.toLower

/-- Events of a level are shown. -/
def shows (t : Threshold) : Level → Bool
  | .info => 3 ≤ t.rank
  | .warn => 2 ≤ t.rank

end Threshold

/-! ## What directives look at -/

/-- The part of the program that an event comes from. -/
def Event.origin : Event → String
  | .triggerEvaluated .. | .diffRouted .. | .stepFinished .. | .phaseChanged .. | .statusReported .. =>
    "autoformat_core::obs"
  | .untrustedCommenter .. => "autoformat_core::trigger"
  | .nothingToReport _ => "autoformat_core::reporter"
  | .runStarted _ | .stageStarted _ | .pushed .. | .nothingToPush | .stoppedEarly _ | .runCancelled
  | .rejectionNotReported _ => "autoformat_ci::pipeline"
  | .commentIgnored .. => "autoformat"

/-- The names of the fields of an event. A step also has the time that it took. -/
def Event.fieldNames (e : Event) : List String :=
  e.fields.map Prod.fst ++
    match e with
    | .stepFinished .. => ["duration_ms"]
    | _ => []

/-- The part of the program that spans come from. -/
def Span.origin : String := "autoformat_core::obs"

/-- The name of a span. -/
def Span.name : String := "autoformat.run"

/-- The fields of a span. -/
def Span.fields (s : Span) : List (String × String) :=
  [("run_id", s.runId), ("pull_number", toString s.pullNumber.toNat)]

/-! ## Directives -/

/-- What is shown of a part of the log. -/
structure Directive where
  threshold : Threshold := .trace
  /-- The start of the names of parts of the program. -/
  origin : Option String := none
  span : Option String := none
  /-- A field, and maybe its value. -/
  field : Option (String × Option String) := none
  deriving DecidableEq, Repr

namespace Directive

/-- The directive is about spans. -/
def isAboutSpans (d : Directive) : Bool := d.span.isSome || d.field.isSome

/-- The directive is about events, wherever they are. -/
def isAboutEvents (d : Directive) : Bool := d.span.isNone && !d.field.any fun x => x.2.isSome

/-- The part of the program is one that the directive names. -/
def covers (d : Directive) (origin : String) : Bool := d.origin.all (Text.startsWith origin ·)

/-- The directive fits an event. -/
def fitsEvent (d : Directive) (e : Event) : Bool :=
  d.isAboutEvents && d.covers e.origin && d.field.all fun x => e.fieldNames.contains x.1

/-- The directive fits a span, whatever the values of its fields are. -/
def fitsSpan (d : Directive) (s : Span) : Bool :=
  d.isAboutSpans && d.covers Span.origin && d.span.all (· = Span.name) &&
    d.field.all fun x => (s.fields.lookup x.1).isSome

/-- The value is a number or a truth value, which no text is equal to. -/
def isPlainValue (value : String) : Bool := value.toInt?.isSome || value = "true" || value = "false"

/-- The field of the directive has the value in a span that the directive asks for. -/
def acceptsValue (d : Directive) (s : Span) : Bool :=
  match d.field with
  | some (key, some value) => s.fields.lookup key = some value && !(key = "run_id" && isPlainValue value)
  | _ => true

/-- The first directive is at least as specific as the second one. -/
def isAsSpecific (d e : Directive) : Bool :=
  let length (x : Directive) : Nat := (x.origin.map fun s => s.utf8ByteSize + 1).getD 0
  let fields (x : Directive) : Nat := if x.field.isSome then 1 else 0
  length e < length d || (length e = length d && fields e ≤ fields d)

end Directive

/-! ## Reading -/

/-- How far a directive has been read. The numbers are places where parts begin. -/
inductive Directive.Progress where
  | start
  | thresholdOrOrigin (start : Nat)
  | span (start : Nat)
  | field (start : Nat)
  | afterField
  | afterSpan
  | threshold (start : Nat)

/-- A directive that is read, and how far. -/
structure Directive.Reading where
  directive : Directive := {}
  progress : Directive.Progress := .start

/-- A field and its value. -/
def Directive.fieldOf (cs : List Char) : String × Option String :=
  let name := cs.takeWhile (· ≠ '=')
  let rest := cs.drop (name.length + 1)
  (String.ofList name,
    if name.length = cs.length then none else some (String.ofList (rest.takeWhile (· ≠ '='))))

/-- Reads the next character of a directive. Parts are cut out of the text as it was given. -/
def Directive.Reading.add (text : List Char) (r : Directive.Reading) (i : Nat) (c : Char) :
    Option Directive.Reading :=
  let d := r.directive
  let part (start : Nat) : List Char := (text.take i).drop start
  match r.progress with
  | .start =>
    if c = '[' then some { r with progress := .span (i + 1) }
    else if c = '-' || c = ':' || c = '_' || c.isAlphanum || 0x80 ≤ c.toNat then
      some { r with progress := .thresholdOrOrigin i }
    else none
  | .thresholdOrOrigin start =>
    let named := { d with origin := some (String.ofList (part start)) }
    if c = '=' then some ⟨named, .threshold (i + 1)⟩
    else if c = '[' then some ⟨named, .span (i + 1)⟩
    else some r
  | .span start =>
    let name := part start
    if c = ']' then some ⟨{ d with span := some (String.ofList name) }, .afterSpan⟩
    else if c = '\x7b' then
      let span := if name.isEmpty then none else some (String.ofList name)
      some ⟨{ d with span := span }, .field (i + 1)⟩
    else some r
  | .field start =>
    if c = '\x7d' then
      let cs := part start
      if cs.isEmpty then none else some ⟨{ d with field := some (fieldOf cs) }, .afterField⟩
    else some r
  | .afterField => if c = ']' then some { r with progress := .afterSpan } else none
  | .afterSpan => if c = '=' then some { r with progress := .threshold (i + 1) } else none
  | .threshold _ => some r

/-- The directive at the end of its text. -/
def Directive.Reading.finish (text : List Char) (r : Directive.Reading) : Option Directive :=
  let d := r.directive
  let part (start : Nat) : String := String.ofList (text.drop start)
  match r.progress with
  | .thresholdOrOrigin start =>
    match Threshold.ofText? (part start) with
    | some t => some { d with threshold := t }
    | none => some { d with origin := some (part start) }
  | .threshold start =>
    if part start = "" then some d
    else (Threshold.ofText? (part start)).map fun t => { d with threshold := t }
  | .afterSpan => some d
  | _ => none

/-- The directive that a text stands for. -/
def Directive.ofText? (s : String) : Option Directive := do
  let text := s.toList
  let r ← (Text.trimChars text).zipIdx.foldlM (fun (r : Reading) (c, i) => r.add text i c) {}
  r.finish text

/-- Which entries are shown. -/
structure Filter where
  directives : List Directive
  deriving DecidableEq, Repr

namespace Filter

/-- The variable that a filter is taken from. -/
def variableName : String := "RUST_LOG"

/-- Everything is shown. -/
def everything : Filter := ⟨[{}]⟩

/-- The filter that a text stands for. -/
def ofText? (s : String) : Option Filter :=
  ((s.splitOn ",").filter (· ≠ "")).mapM Directive.ofText? |>.map Filter.mk

/-- The filter of a setting; without one that can be read, everything is shown. -/
def ofSetting (s : Option String) : Filter := (s.bind ofText?).getD everything

/-- The most specific of some directives, and the last one of several. -/
def mostSpecific? (ds : List Directive) : Option Directive :=
  ds.foldl (fun best d => if best.all fun b => d.isAsSpecific b then some d else best) none

/-- The event is shown wherever it is. -/
def showsEvent (f : Filter) (e : Event) : Bool :=
  (mostSpecific? (f.directives.filter fun d => d.fitsEvent e)).any fun d => d.threshold.shows e.level

/-- The span is shown because a directive names it. -/
def namesSpan (f : Filter) (s : Span) : Bool := f.directives.any fun d => d.fitsSpan s

/-- The directive that decides about the part of the program that spans come from shows them. -/
def showsSpans (f : Filter) : Bool :=
  (mostSpecific? (f.directives.filter fun d => d.isAboutEvents && d.covers Span.origin)).any fun d =>
    d.threshold.shows .info

/-- An event in a span is shown because of the span. -/
def showsInside (f : Filter) (s : Span) (e : Event) : Bool :=
  f.directives.any fun d => d.fitsSpan s && d.acceptsValue s && d.threshold.shows e.level

/-- What is shown of an entry: nothing, or its event, and its span if that is shown. -/
def shown? (f : Filter) (e : Entry) : Option Entry :=
  let isShown := f.showsEvent e.event || e.span.any fun s => f.showsInside s e.event
  if isShown then some { e with span := e.span.filter fun s => f.namesSpan s || f.showsSpans } else none

end Filter

end Autoformat.Log
