import Underwriting.Trace

/-!
Levels of log events and how much of a log is shown: nothing, or everything up to a level. A text
names one of these by its name in any case or by its number from zero to five.
-/

namespace Underwriting

namespace Level

def rank : Level → Nat
  | .error => 1
  | .warn => 2
  | .info => 3
  | .debug => 4
  | .trace => 5

def label : Level → String
  | .error => "ERROR"
  | .warn => "WARN"
  | .info => "INFO"
  | .debug => "DEBUG"
  | .trace => "TRACE"

def name : Level → String
  | .error => "error"
  | .warn => "warn"
  | .info => "info"
  | .debug => "debug"
  | .trace => "trace"

end Level

inductive Verbosity
  | off
  | upTo (level : Level)
deriving DecidableEq

namespace Verbosity

def all : List Verbosity :=
  [.off, .upTo .error, .upTo .warn, .upTo .info, .upTo .debug, .upTo .trace]

def rank : Verbosity → Nat
  | .off => 0
  | .upTo level => level.rank

def name : Verbosity → String
  | .off => "off"
  | .upTo level => level.name

def admits (verbosity : Verbosity) (level : Level) : Bool := level.rank ≤ verbosity.rank

def ofChars? (text : List Char) : Option Verbosity :=
  match Text.unsigned? text with
  | some number => all.find? (·.rank == number)
  | none =>
      if text.isEmpty then some (.upTo .error)
      else all.find? fun verbosity => verbosity.name.toList == text.map Char.toLower

end Verbosity

end Underwriting
