import Underwriting.Command.Files
import Underwriting.Settings.Basic

/-!
Loading of settings. They come from the file that is asked for, from the one that the environment
names, or from the one of the standing name if it is there. A file that is refused is reported without
the place in it.
-/

namespace Underwriting.Command

inductive LoadFault
  | unreadable (path : String) (cause : FileFault)
  | invalid (path : String)
deriving DecidableEq

namespace LoadFault

def diagnosis : String := "a line is not a setting, or a setting is unknown or given twice"

def message : LoadFault → String
  | .unreadable path cause => "failed to read " ++ path ++ ": " ++ cause.message
  | .invalid path => "invalid config " ++ path ++ ": " ++ diagnosis

def causes : LoadFault → List String
  | .unreadable _ cause => [cause.message]
  | .invalid _ => [diagnosis]

end LoadFault

def loadSettings (files : Files) (path : String) : Except LoadFault Settings :=
  match files.readText path with
  | .error cause => .error (.unreadable path cause)
  | .ok text =>
      match Settings.ofText? text with
      | none => .error (.invalid path)
      | some settings => .ok settings

def standardSettingsPath : String := "coverage.toml"

def settingsPath? (files : Files) (asked environment : Option String) : Option String :=
  match asked, environment.filter (!·.isEmpty) with
  | some path, _ => some path
  | none, some path => some path
  | none, none =>
      if files.isFile standardSettingsPath then some standardSettingsPath else none

def resolveSettings (files : Files) (asked environment : Option String) :
    Except LoadFault Settings :=
  match settingsPath? files asked environment with
  | some path => loadSettings files path
  | none => .ok .standing

end Underwriting.Command
