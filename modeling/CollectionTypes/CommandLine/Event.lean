/-!
# Events

What a run can tell about its work: a message about a target, with a level. As a line it shows
nothing that would steer a terminal.

Specification: section 8 (logging).
-/

namespace CollectionTypes.CommandLine

inductive Level where
  | error
  | warn
  | info
  | debug
  | trace
  deriving DecidableEq, Repr

namespace Level

/-- How much detail a level stands for. -/
def detail : Level → Nat
  | .error => 1
  | .warn => 2
  | .info => 3
  | .debug => 4
  | .trace => 5

def text : Level → String
  | .error => "ERROR"
  | .warn => "WARN"
  | .info => "INFO"
  | .debug => "DEBUG"
  | .trace => "TRACE"

end Level

structure Event where
  level : Level
  target : String
  message : String
  deriving DecidableEq, Repr

/-- Characters that steer a terminal are shown as escapes. -/
def terminalChar (c : Char) : List Char :=
  if c = '\x1b' || c = '\x07' || c = '\x08' || c = '\x0c' || c = '\x7f' then
    ['\\', 'x', Nat.digitChar (c.toNat / 16), Nat.digitChar (c.toNat % 16)]
  else if 0x80 ≤ c.toNat && c.toNat ≤ 0x9F then
    '\\' :: 'u' :: '{' :: (Nat.toDigits 16 c.toNat ++ ['}'])
  else [c]

namespace Event

/-- The fields that an event has beside its level and target. -/
def fields : List String := ["message"]

def line (event : Event) : String :=
  event.level.text ++ " " ++ event.target ++ ": " ++
    String.ofList (event.message.toList.flatMap terminalChar)

end Event

end CollectionTypes.CommandLine
