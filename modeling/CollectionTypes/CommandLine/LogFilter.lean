import CollectionTypes.CommandLine.Event
import CollectionTypes.Text.Alphanumeric
import CollectionTypes.Text.ByteSlice
import CollectionTypes.Text.Pattern
import CollectionTypes.Text.WhiteSpace

/-!
# Log filters

Which events of a run are shown. A filter is a list of directives such as `name=info` or
`name[span{field}]=info`; each is about the targets that begin with its name, and the weightiest one
that is about an event decides on it.

Specification: section 8 (logging: the filter read from the environment).
-/

namespace CollectionTypes.CommandLine

/-- Asks for a field of an event, and for a value of it, if one is given. -/
structure FieldTest where
  name : String
  value : Option String
  deriving DecidableEq, Repr

/-- Shows events up to a degree of detail. -/
structure Directive where
  target : String
  span : Option String
  field : Option FieldTest
  detail : Nat
  deriving DecidableEq, Repr

namespace Directive

/-- Spans enclose events, and values are asked of their fields. A run has no spans, so a directive
with a span or a value is about none of its events. -/
def isAbout (directive : Directive) (event : Event) : Bool :=
  directive.target.toList.isPrefixOf event.target.toList && directive.span.isNone &&
    directive.field.all fun test => test.value.isNone && Event.fields.contains test.name

/-- A longer target weighs more than a field. -/
def weight (directive : Directive) : Nat :=
  2 * directive.target.length + (if directive.field.isSome then 1 else 0)

end Directive

/-- A degree of detail as a number, with or without a plus and zeros in front. -/
def detailOfNumber? (word : List Char) : Option Nat :=
  let digits := match word with
    | '+' :: digits => digits
    | digits => digits
  if digits.isEmpty then none
  else
    match digits.dropWhile (· = '0') with
    | [] => some 0
    | [digit] => if '1' ≤ digit && digit ≤ '5' then some (digit.toNat - '0'.toNat) else none
    | _ => none

/-- A degree of detail as a number or as a word in letters of any case; `off` shows nothing. -/
def detail? (word : List Char) : Option Nat :=
  match String.ofList (word.map Char.toLower) with
  | "off" => some 0
  | "error" => some Level.error.detail
  | "warn" => some Level.warn.detail
  | "info" => some Level.info.detail
  | "debug" => some Level.debug.detail
  | "trace" => some Level.trace.detail
  | _ => detailOfNumber? word

/-- Digits with a point and an exponent, if any, or a word for no finite number. -/
def isUnsignedNumber (text : List Char) : Bool :=
  let whole := text.takeWhile Char.isDigit
  let (fraction, rest) := match text.drop whole.length with
    | '.' :: rest => (rest.takeWhile Char.isDigit, rest.dropWhile Char.isDigit)
    | rest => ([], rest)
  let exponent := match rest with
    | [] => true
    | mark :: '+' :: digits | mark :: '-' :: digits | mark :: digits =>
        mark.toLower = 'e' && !digits.isEmpty && digits.all Char.isDigit
  (exponent && !(whole.isEmpty && fraction.isEmpty)) ||
    ["inf", "infinity", "nan"].contains (String.ofList (text.map Char.toLower))

/-- A value is a pattern. A number with a plus in front is no pattern, but a value as well. -/
def isFieldValue (text : List Char) : Bool :=
  match text with
  | '+' :: number => isUnsignedNumber number
  | text => Text.isPattern text

/-- A name, or a name and a value with `=` between them. -/
def FieldTest.ofText? (text : List Char) : Option FieldTest :=
  match text.splitOn '=' with
  | [] => none
  | [name] => some ⟨String.ofList name, none⟩
  | name :: value :: _ =>
      if isFieldValue value then some ⟨String.ofList name, some (String.ofList value)⟩ else none

namespace Directive

/-- The characters that a directive about targets may start with. -/
def startsTarget (c : Char) : Bool :=
  Text.isAlphanumeric c || c = '-' || c = ':' || c = '_'

/-- What a character belongs to, and where that begins. -/
inductive Stage where
  | start
  | word
  | span (start : Nat)
  | field (start : Nat)
  | fieldEnd
  | bracketEnd
  | detail (start : Nat)
  deriving DecidableEq, Repr

/-- What was read of a directive. -/
structure Draft where
  target : String
  span : Option String
  field : Option FieldTest
  stage : Stage
  deriving DecidableEq, Repr

namespace Draft

def empty : Draft := ⟨"", none, none, .start⟩

/-- Reads a character. Its place is counted from the first one that is no white space, but pieces
are cut out of the whole text at that place, so white space in front moves all of them. -/
def read? (text : List Char) (draft : Draft) : Nat × Char → Option Draft
  | (place, c) =>
      match draft.stage with
      | .start =>
          if c = '[' then some { draft with stage := .span (place + 1) }
          else if startsTarget c then some { draft with stage := .word }
          else none
      | .word =>
          if c = '=' || c = '[' then do
            let target := String.ofList (← Text.slice? text 0 place)
            let stage := if c = '=' then Stage.detail (place + 1) else .span (place + 1)
            some { draft with target, stage }
          else some draft
      | .span start =>
          if c = ']' then do
            let span := String.ofList (← Text.slice? text start place)
            some { draft with span, stage := .bracketEnd }
          else if c = '{' then do
            let name ← Text.slice? text start place
            let span := if name.isEmpty then none else some (String.ofList name)
            some { draft with span, stage := .field (place + 1) }
          else some draft
      | .field start =>
          if c = '}' then
            if place = start then none
            else do
              let field ← FieldTest.ofText? (← Text.slice? text start place)
              some { draft with field, stage := .fieldEnd }
          else some draft
      | .fieldEnd => if c = ']' then some { draft with stage := .bracketEnd } else none
      | .bracketEnd => if c = '=' then some { draft with stage := .detail (place + 1) } else none
      | .detail _ => some draft

/-- Ends a directive. A word alone is a degree of detail for all targets, or else a target. Where no
degree is given, all is shown. -/
def finish? (text : List Char) (draft : Draft) : Option Directive :=
  let all := Level.trace.detail
  match draft.stage with
  | .word =>
      match detail? text with
      | some detail => some ⟨"", none, none, detail⟩
      | none => some ⟨String.ofList text, none, none, all⟩
  | .bracketEnd => some ⟨draft.target, draft.span, draft.field, all⟩
  | .detail start => do
      let word ← Text.dropBytes? start text
      let detail ← if word.isEmpty then some all else detail? word
      some ⟨draft.target, draft.span, draft.field, detail⟩
  | .start | .span _ | .field _ | .fieldEnd => none

end Draft

/-- Reads a directive. White space around it ends no piece of it: behind it belongs to the last. -/
def ofText? (text : List Char) : Option Directive := do
  let draft ← (Text.withPlaces 0 (Text.trim text)).foldlM (Draft.read? text) .empty
  draft.finish? text

end Directive

abbrev LogFilter := List Directive

namespace LogFilter

def ofLevel (level : Level) : LogFilter :=
  [⟨"", none, none, level.detail⟩]

/-- Reads directives between commas. A text without any shows errors only. -/
def ofText? (text : String) : Option LogFilter :=
  match (text.toList.splitOn ',').filter (!·.isEmpty) with
  | [] => some (ofLevel .error)
  | texts => texts.mapM Directive.ofText?

/-- Of the directives about an event the weightiest, and of equals the later. -/
def decisive? (filter : LogFilter) (event : Event) : Option Directive :=
  (filter.filter (·.isAbout event)).foldl (fun best directive =>
    match best with
    | some d => if directive.weight < d.weight then best else some directive
    | none => some directive) none

def shows (filter : LogFilter) (event : Event) : Bool :=
  (filter.decisive? event).any fun directive => event.level.detail ≤ directive.detail

/-- The lines of the events that a filter shows. -/
def lines (filter : LogFilter) (events : List Event) : List String :=
  (events.filter filter.shows).map (·.line)

end LogFilter

end CollectionTypes.CommandLine
