import Underwriting.Calendar.Reading
import Underwriting.Settings.Statement

/-!
Settings of the gate: the database, how long to wait for it while it is locked, and the date on
which prices have to be valid. What a settings file leaves out has a standing value; a file that
says anything twice, or anything else, is refused.
-/

namespace Underwriting

structure Settings where
  database : String
  /-- In milliseconds. -/
  busyTimeout : UInt64
  /-- Today if there is none. -/
  evaluationDate : Option Date
deriving DecidableEq

namespace Settings

def standing : Settings := ⟨"coverage.db", 5000, none⟩

def override (settings : Settings) (database : Option String) (evaluationDate : Option Date) :
    Settings :=
  { settings with
    database := database.getD settings.database
    evaluationDate := evaluationDate.or settings.evaluationDate }

def busySeconds (settings : Settings) : Nat := settings.busyTimeout.toNat / 1000

inductive Section
  | database
  | validation
deriving DecidableEq

def Section.ofName? : String → Option Section
  | "database" => some .database
  | "validation" => some .validation
  | _ => none

inductive Key
  | path
  | busyTimeout
  | evaluationDate
deriving DecidableEq

def Section.keys : Section → List Key
  | .database => [.path, .busyTimeout]
  | .validation => [.evaluationDate]

def Key.name : Key → String
  | .path => "path"
  | .busyTimeout => "busy_timeout_ms"
  | .evaluationDate => "evaluation_date"

def Section.key? (owner : Section) (name : String) : Option Key :=
  owner.keys.find? (·.name == name)

def set? (settings : Settings) : Key → Scalar → Option Settings
  | .path, .text path => some { settings with database := path }
  | .busyTimeout, .whole number =>
      if 0 ≤ number ∧ number < UInt64.size then
        some { settings with busyTimeout := UInt64.ofNat number.toNat }
      else none
  | .evaluationDate, .text text =>
      match Date.ofText .spaced text with
      | .ok date => some { settings with evaluationDate := some date }
      | .error _ => none
  | _, _ => none

structure Opened where
  name : Section
  bySingleKeys : Bool
deriving DecidableEq

structure Draft where
  settings : Settings
  given : List Key
  opened : List Opened
  current : Option Section

namespace Draft

def start : Draft := ⟨standing, [], [], none⟩

def give (draft : Draft) (key : Key) (scalar : Scalar) : Option Draft :=
  if key ∈ draft.given then none
  else
    (draft.settings.set? key scalar).map fun settings =>
      { draft with settings, given := key :: draft.given }

def isOpened (draft : Draft) (name : Section) : Bool :=
  draft.opened.any fun opened => opened.name == name

def openOnce (draft : Draft) (name : Section) : Option Draft :=
  if draft.isOpened name then none
  else some { draft with opened := ⟨name, false⟩ :: draft.opened }

def openBySingleKey (draft : Draft) (name : Section) : Option Draft :=
  if ⟨name, true⟩ ∈ draft.opened then some draft
  else if draft.isOpened name then none
  else some { draft with opened := ⟨name, true⟩ :: draft.opened }

def giveNamed (draft : Draft) (name : Section) (key : String) (scalar : Scalar) : Option Draft :=
  (name.key? key).bind fun key => draft.give key scalar

/-- Gives a whole section at once; a list may be longer or shorter than the section. -/
def giveSection (draft : Draft) (name : Section) : Value → Option Draft
  | .group members =>
      members.foldlM (fun draft (keys, scalar) =>
        match keys with
        | [key] => draft.giveNamed name key scalar
        | _ => none) draft
  | .list items =>
      (name.keys.zip items).foldlM (fun draft (key, scalar) => draft.give key scalar) draft
  | .scalar _ => none

def take (draft : Draft) : Statement → Option Draft
  | .header name => do
      let name ← Section.ofName? name
      let draft ← draft.openOnce name
      return { draft with current := some name }
  | .assign keys value =>
      match draft.current, keys, value with
      | some name, [key], .scalar scalar => draft.giveNamed name key scalar
      | none, [name], value => do
          let name ← Section.ofName? name
          let draft ← draft.openOnce name
          draft.giveSection name value
      | none, [name, key], .scalar scalar => do
          let name ← Section.ofName? name
          let draft ← draft.openBySingleKey name
          draft.giveNamed name key scalar
      | _, _, _ => none

end Draft

def ofText? (text : String) : Option Settings := do
  let statements ← Statement.listOfText? text
  let draft ← statements.foldlM Draft.take Draft.start
  return draft.settings

end Settings

end Underwriting
