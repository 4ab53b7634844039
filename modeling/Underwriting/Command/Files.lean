import Underwriting.Store.Database
import Underwriting.Text.Split

/-!
The files that a command sees: those under a working directory, by their names relative to it, and
any others by their full names. A file holds bytes or a database. Directories are there only because
the working directory or files are in them. A path is followed step by step, and each step has to
start in a directory. There are no links and no permissions, and only the program changes files.
-/

namespace Underwriting.Command

inductive Content
  | bytes (content : List UInt8)
  | database (database : Store.Database)
deriving DecidableEq

abbrev Place := List String

structure Files where
  /-- The full name of the working directory. -/
  directory : String
  entries : List (String × Content)
deriving DecidableEq

inductive FileFault
  | missing
  | underFile
  | isDirectory
  | nameTooLong
  | notText
deriving DecidableEq

def FileFault.message : FileFault → String
  | .missing => "No such file or directory (os error 2)"
  | .underFile => "Not a directory (os error 20)"
  | .isDirectory => "Is a directory (os error 21)"
  | .nameTooLong => "File name too long (os error 36)"
  | .notText => "stream did not contain valid UTF-8"

inductive Found
  | file (content : Content)
  | directory
  | nothing

namespace Files

def partsOf (path : String) : List String := Text.splitText '/' path

def namesOf (path : String) : List String := (partsOf path).filter (!·.isEmpty)

def isRooted (path : String) : Bool := path.toList.head? = some '/'

def home (files : Files) : Place := namesOf files.directory

def startOf (files : Files) (path : String) : Place := if isRooted path then [] else files.home

def placeOf (files : Files) (name : String) : Place := files.startOf name ++ namesOf name

def fullName (place : Place) : String := "/" ++ "/".intercalate place

def nameOf (files : Files) (place : Place) : String :=
  if files.home.isPrefixOf place ∧ files.home.length < place.length then
    "/".intercalate (place.drop files.home.length)
  else fullName place

def find? (files : Files) (name : String) : Option Content :=
  (files.entries.find? fun entry => entry.1 == name).map (·.2)

def isInside (inner outer : Place) : Bool :=
  outer.isPrefixOf inner && outer.length < inner.length

def isDirectory (files : Files) (place : Place) : Bool :=
  place.isPrefixOf files.home ||
    files.entries.any fun entry => isInside (files.placeOf entry.1) place

def isUnderFile (files : Files) (place : Place) : Bool :=
  files.entries.any fun entry => isInside place (files.placeOf entry.1)

def foundAt (files : Files) (place : Place) : Found :=
  match files.find? (files.nameOf place) with
  | some content => .file content
  | none => if files.isDirectory place then .directory else .nothing

def longestName : Nat := 255

def longestPath : Nat := 4095

def step (files : Files) (place : Place) (part : String) : Except FileFault Place :=
  match files.foundAt place with
  | .file _ => .error .underFile
  | .nothing => .error .missing
  | .directory =>
      if part = "" ∨ part = "." then .ok place
      else if part = ".." then .ok place.dropLast
      else if longestName < part.utf8ByteSize then .error .nameTooLong
      else .ok (place ++ [part])

def follow (files : Files) (path : String) : Except FileFault Place :=
  if path.isEmpty then .error .missing
  else if longestPath < path.utf8ByteSize then .error .nameTooLong
  else (partsOf path).foldlM files.step (files.startOf path)

def read (files : Files) (path : String) : Except FileFault Content :=
  (files.follow path).bind fun place =>
    match files.foundAt place with
    | .file content => .ok content
    | .directory => .error .isDirectory
    | .nothing => .error .missing

def isFile (files : Files) (path : String) : Bool := (files.read path).toOption.isSome

def readText (files : Files) (path : String) : Except FileFault String :=
  (files.read path).bind fun content =>
    match content with
    | .database _ => .error .notText
    | .bytes content =>
        match String.fromUTF8? ⟨content.toArray⟩ with
        | some text => .ok text
        | none => .error .notText

def write (files : Files) (name : String) (content : Content) : Files :=
  if (files.find? name).isSome then
    { files with
      entries := files.entries.map fun entry =>
        if entry.1 == name then (name, content) else entry }
  else { files with entries := files.entries ++ [(name, content)] }

/-- The place that a path leads to for writing: a file, or a place for a new one in a directory. A
path that ends like that of a directory is none. -/
def followToWrite (files : Files) (path : String) : Except FileFault Place := do
  let ending := (partsOf path).reverse
  let named := ending.dropWhile (·.isEmpty)
  if path.isEmpty then throw .missing
  if longestPath < path.utf8ByteSize then throw .nameTooLong
  let parent ← named.tail.reverse.foldlM files.step (files.startOf path)
  let inside ← files.step parent ""
  if ending.length ≠ named.length ∨ named.headD "" ∈ ["", ".", ".."] then throw .isDirectory
  let place ← files.step inside (named.headD "")
  match files.foundAt place with
  | .directory => throw .isDirectory
  | _ => return place

def touch (files : Files) (path : String) : Except FileFault (Files × String) :=
  (files.followToWrite path).map fun place =>
    let name := files.nameOf place
    match files.foundAt place with
    | .nothing => (files.write name (.bytes []), name)
    | _ => (files, name)

def append (files : Files) (name : String) (bytes : List UInt8) : Files :=
  match files.find? name with
  | some (.bytes content) => files.write name (.bytes (content ++ bytes))
  | _ => files

/-- The place that the names of a path make, where a step back takes the name in front of it away
whatever it is the name of. No name may be too long or stand for something under a file. -/
def plainPlace? (files : Files) (path : String) : Option Place :=
  (partsOf path).foldlM (fun place part =>
    if part = "" ∨ part = "." then some place
    else if part = ".." then some place.dropLast
    else if longestName < part.utf8ByteSize ∨ files.isUnderFile (place ++ [part]) then none
    else some (place ++ [part])) (files.startOf path)

end Files

end Underwriting.Command
