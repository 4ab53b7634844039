import Underwriting.Calendar.Reading
import Underwriting.Coverage
import Underwriting.Log.Layout

/-!
What a command line asks for: a command, and options that hold for every command. An option may be
given before or behind the command's name; given in both places, the later one counts.
-/

namespace Underwriting.Command

inductive Colour
  | auto
  | always
  | never
deriving DecidableEq

structure Options where
  settingsPath : Option String
  database : Option String
  evaluationDate : Option Date
  verbose : Nat
  quiet : Nat
  colour : Option Colour
  logLevel : Option Level
  logLayout : Option Log.Layout
  logPath : Option String
deriving DecidableEq

namespace Options

def none : Options := ⟨.none, .none, .none, 0, 0, .none, .none, .none, .none⟩

def overriddenBy (before behind : Options) : Options :=
  { settingsPath := behind.settingsPath.or before.settingsPath
    database := behind.database.or before.database
    evaluationDate := behind.evaluationDate.or before.evaluationDate
    verbose := if behind.verbose = 0 then before.verbose else behind.verbose
    quiet := if behind.quiet = 0 then before.quiet else behind.quiet
    colour := behind.colour.or before.colour
    logLevel := behind.logLevel.or before.logLevel
    logLayout := behind.logLayout.or before.logLayout
    logPath := behind.logPath.or before.logPath }

def verbosity (options : Options) : Verbosity :=
  match options.logLevel with
  | some level => .upTo level
  | .none =>
      match Level.warn.rank + options.verbose - options.quiet with
      | 0 => .off
      | 1 => .upTo .error
      | 2 => .upTo .warn
      | 3 => .upTo .info
      | 4 => .upTo .debug
      | _ => .upTo .trace

def choosesVerbosity (options : Options) : Bool :=
  options.verbose != 0 || options.quiet != 0 || options.logLevel.isSome

def layout (options : Options) : Log.Layout := options.logLayout.getD .pretty

/-- Log lines are coloured on demand alone, since they never go to a terminal. -/
def coloured (options : Options) : Bool := options.colour == some .always

end Options

end Underwriting.Command

namespace Underwriting

inductive Command
  | add (request : Request) (dryRun : Bool)
  | rules (request : Request)
  | doctor (asJson : Bool)
deriving DecidableEq

structure Command.Invocation where
  options : Command.Options
  command : Command
deriving DecidableEq

end Underwriting
