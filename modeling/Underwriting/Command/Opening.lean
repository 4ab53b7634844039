import Underwriting.Command.Files
import Underwriting.Command.Locator

/-!
Opening a database. A path names a file that has to be there; the empty path and one special name
stand for a new database that is kept nowhere, and a locator says itself how it is opened. A database
is opened as it was before a transaction that was left open. A file without bytes is an empty
database, and so is one of a single byte; any other file that is none is only found out when it is
read.
-/

namespace Underwriting.Command

structure Opened where
  database : Store.Database
  name : String
  entry : Option String
deriving DecidableEq

def memoryName : String := ":memory:"

def openedNowhere : Opened := ⟨.empty, memoryName, none⟩

def longestFileName : Nat := 504

def databasePlace? (files : Files) (path : String) : Option Place :=
  (files.plainPlace? path).filter fun place =>
    !place.isEmpty && (Files.fullName place).utf8ByteSize ≤ longestFileName

def openAt (files : Files) (place : Place) (mode : OpenMode) (access : Store.Access) :
    Option (Except OpenFault Opened) :=
  let opened (database : Store.Database) : Opened :=
    ⟨database, Files.fullName place, some (files.nameOf place)⟩
  match files.foundAt place with
  | .file (.database database) => some (.ok (opened { database.rollback with access }))
  | .file (.bytes []) => some (.ok (opened { Store.Database.empty with access }))
  | .file (.bytes [_]) => some (.ok (opened { Store.Database.empty with access }))
  | .file (.bytes _) =>
      some (.ok (opened { Store.Database.empty with access := .unreadable }))
  | .directory => if mode = .readOnly then some (.error .readFailed) else none
  | .nothing =>
      if mode = .create ∧ files.isDirectory place.dropLast then
        some (.ok (opened { Store.Database.empty with access }))
      else none

def openFile (files : Files) (asked path : String) (mode : OpenMode) (access : Store.Access) :
    Except OpenFault Opened :=
  ((databasePlace? files path).bind fun place => openAt files place mode access).getD
    (.error (.cannotOpen asked))

def openLocator (files : Files) (asked : String) (text : List Char) :
    Except OpenFault Opened := do
  let locator ← Locator.ofChars text
  let mode ← locator.mode
  let access : Store.Access :=
    if mode = .readOnly ∨ locator.isImmutable then .readOnly else .readWrite
  match mode, String.fromUTF8? ⟨locator.path.toArray⟩ with
  | .memory, _ => return openedNowhere
  | _, none => throw (.cannotOpen asked)
  | _, some path =>
      if path.isEmpty ∨ path = memoryName then return openedNowhere
      else openFile files asked path mode access

def filePath? (path : String) : Option String :=
  let file :=
    match path.toList with
    | 'f' :: 'i' :: 'l' :: 'e' :: ':' :: text =>
        (Locator.ofChars text).toOption.bind fun locator =>
          String.fromUTF8? ⟨locator.path.toArray⟩
    | _ => some path
  file.filter fun file => !file.isEmpty && file != memoryName

def openPath (files : Files) (path : String) : Except OpenFault Opened :=
  let before := path.toList.takeWhile (· != '\x00')
  if before.length < path.toList.length then
    .error (.nulByte (String.ofList before).utf8ByteSize)
  else if path.isEmpty ∨ path = memoryName then .ok openedNowhere
  else
    match path.toList with
    | 'f' :: 'i' :: 'l' :: 'e' :: ':' :: text => openLocator files path text
    | _ => openFile files path path .readWrite .readWrite

def Opened.keep (opened : Opened) (files : Files) (database : Store.Database) : Files :=
  match opened.entry with
  | some name =>
      if database.access = .readWrite ∧ database ≠ opened.database then
        files.write name (.database database)
      else files
  | none => files

/-- The files once a database is opened, which may have made its file. -/
def filesOnceOpen (files : Files) (path : String) : Files :=
  match openPath files path with
  | .ok ⟨_, _, some name⟩ =>
      if (files.find? name).isSome then files else files.write name (.bytes [])
  | _ => files

end Underwriting.Command
