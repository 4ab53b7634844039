import Std.Time.Zoned
import Underwriting.Command.Run
import Underwriting.Exchange.Snapshot

/-!
The program. It loads the files that a run may look at, runs, keeps the files that the run has
changed and prints what it reports.
-/

namespace Underwriting.Program

open Command

def directoryCode : UInt32 := 21

def way (place : Place) : List String → List Place
  | [] => []
  | part :: rest =>
      let next :=
        if part = "" ∨ part = "." then place
        else if part = ".." then place.dropLast
        else place ++ [part]
      next :: way next rest

def loadPlace (decode : ByteArray → Content) (files : Files) (place : Place) : IO Files := do
  let name := files.nameOf place
  match ← (IO.FS.readBinFile name).toBaseIO with
  | .ok bytes => return files.write name (decode bytes)
  | .error (.inappropriateType _ code _) =>
      if code = directoryCode then return files.write (name ++ "/.") (.bytes []) else return files
  | .error _ => return files

def loadPath (decode : ByteArray → Content) (files : Files) (path : String) : IO Files :=
  (way (files.startOf path) (Files.partsOf path)).foldlM (loadPlace decode) files

def plainContent (bytes : ByteArray) : Content := .bytes bytes.toList

def storedContent (bytes : ByteArray) : Content :=
  match (String.fromUTF8? bytes).bind Exchange.ofSnapshot? with
  | some database => .database database
  | none => plainContent bytes

def contentBytes : Content → ByteArray
  | .bytes content => ⟨content.toArray⟩
  | .database database => (Exchange.snapshot database).toUTF8

def save (before after : Files) : IO Unit :=
  after.entries.forM fun (name, content) => do
    if before.find? name ≠ some content then IO.FS.writeBinFile name (contentBytes content)

def today : IO Date := do
  let date ← Std.Time.PlainDate.now
  match Date.ofParts? date.year.toInt date.month.toNat date.day.toNat with
  | some date => return date
  | none => throw (.userError "the clock shows no date of the calendar")

def environment : IO (List (String × String)) :=
  [settingsVariable, filterVariable].filterMapM fun name => do
    return (← IO.getEnv name).map (name, ·)

def engineVersion : String := "3.46.0"

def surroundings (arguments : List String) : IO Surroundings := do
  let directory := (← IO.currentDir).toString
  let start : Surroundings := ⟨⟨directory, []⟩, ← environment, ← today, engineVersion⟩
  let files ← (settingsPaths start arguments).foldlM (loadPath plainContent) start.files
  let known := { start with files }
  let files ← (databasePath? known arguments).toList.foldlM (loadPath storedContent) files
  return { known with files }

end Underwriting.Program

open Underwriting in
def main (arguments : List String) : IO UInt32 := do
  let surroundings ← Program.surroundings arguments
  let outcome := Command.run surroundings arguments
  Program.save surroundings.files outcome.files
  IO.print outcome.output
  IO.eprint (String.join (outcome.aside.map Command.lineText))
  return UInt32.ofNat outcome.exit
