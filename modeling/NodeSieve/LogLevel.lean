import NodeSieve.Error
import NodeSieve.Text.Padding

/-!
# Log levels

Levels are written in capitals and read in any mixture of ASCII case.
-/

namespace NodeSieve

inductive LogLevel where
  | error
  | warn
  | info
  | debug
  | trace
deriving DecidableEq, Repr

namespace LogLevel

def label : LogLevel → String
  | .error => "ERROR"
  | .warn => "WARN"
  | .info => "INFO"
  | .debug => "DEBUG"
  | .trace => "TRACE"

def all : List LogLevel :=
  [.error, .warn, .info, .debug, .trace]

/-- The level that a text names. -/
def parse (text : String) : Except SieveError LogLevel :=
  let capitals := String.ofList (text.toList.map Char.toUpper)
  match all.find? (·.label == capitals) with
  | some level => .ok level
  | none => .error (.illegalArgument s!"Invalid log level: {text}")

end LogLevel

end NodeSieve
