import Underwriting.Text.Bytes
import Underwriting.Text.Digits
import Underwriting.Text.Split

/-!
Locators of databases: a path behind a scheme, and parameters that say how the file is opened. A
percent sign and two digits stand for a byte. The last mode that is asked for counts, if it asks for
no more than the one in front of it grants.
-/

namespace Underwriting.Command

inductive OpenFault
  | cannotOpen (path : String)
  | readFailed
  | unknownMode (kind mode : String)
  | forbiddenMode (mode : String)
  | unknownSystem (name : String)
  | unknownAuthority (authority : String)
  | nulByte (position : Nat)
deriving DecidableEq

namespace OpenFault

def message : OpenFault → String
  | .cannotOpen path => "unable to open database file: " ++ path
  | .readFailed => "disk I/O error"
  | .unknownMode kind mode => "no such " ++ kind ++ " mode: " ++ mode
  | .forbiddenMode mode => "access mode not allowed: " ++ mode
  | .unknownSystem name => "no such vfs: " ++ name
  | .unknownAuthority authority => "invalid uri authority: " ++ authority
  | .nulByte position =>
      "nul byte found in provided data at position: " ++ toString position

def causes : OpenFault → List String
  | .cannotOpen _ => ["Error code 14: Unable to open the database file"]
  | .readFailed => ["Error code 266: Error reading from disk"]
  | .forbiddenMode _ => ["Error code 3: Access permission denied"]
  | .nulByte position => [(OpenFault.nulByte position).message]
  | _ => ["Error code 1: SQL error or missing database"]

end OpenFault

inductive OpenMode
  | readOnly
  | readWrite
  | create
  | memory
deriving DecidableEq

namespace OpenMode

def ofName? : String → Option OpenMode
  | "ro" => some readOnly
  | "rw" => some readWrite
  | "rwc" => some create
  | "memory" => some memory
  | _ => none

def grants : OpenMode → OpenMode → Bool
  | _, memory => true
  | _, readOnly => true
  | readOnly, _ => false
  | readWrite, create => false
  | _, _ => true

end OpenMode

structure Locator where
  path : List UInt8
  parameters : List (String × String)
deriving DecidableEq

namespace Locator

def bytesFrom : Nat → List Char → List UInt8
  | _, [] => []
  | taken + 1, _ :: rest => bytesFrom taken rest
  | 0, char :: rest =>
      match if char == '%' ∧ 2 ≤ rest.length then Text.ofHexDigits? (rest.take 2) else none with
      | some code => UInt8.ofNat code :: bytesFrom 2 rest
      | none => (String.singleton char).toUTF8.toList ++ bytesFrom 0 rest

def bytesOf (part : List Char) : List UInt8 := (bytesFrom 0 part).takeWhile (· != 0)

def parameter (part : List Char) : String × String :=
  (Text.shownBytes (bytesOf (part.takeWhile (· != '='))),
    Text.shownBytes (bytesOf ((part.dropWhile (· != '=')).drop 1)))

def behindAuthority : List Char → Except OpenFault (List Char)
  | '/' :: '/' :: rest =>
      let authority := String.ofList (rest.takeWhile (· != '/'))
      if authority = "" ∨ authority = "localhost" then .ok (rest.dropWhile (· != '/'))
      else .error (.unknownAuthority authority)
  | text => .ok text

def ofChars (text : List Char) : Except OpenFault Locator := do
  let text := (← behindAuthority text).takeWhile (· != '#')
  let query := (text.dropWhile (· != '?')).drop 1
  let parameters := (Text.splitAt '&' query).map parameter
  return ⟨bytesOf (text.takeWhile (· != '?')), parameters.filter (!·.1.isEmpty)⟩

def values (locator : Locator) (name : String) : List String :=
  (locator.parameters.filter fun parameter => parameter.1 == name).map (·.2)

def leadingNumber (text : List Char) : Nat :=
  let number :=
    match text with
    | '0' :: mark :: rest =>
        let digits := rest.takeWhile fun char => (Text.hexValue? char).isSome
        if (mark == 'x' || mark == 'X') ∧ !digits.isEmpty then
          (Text.ofHexDigits? digits).getD 0
        else Text.ofDigits (text.takeWhile Char.isDigit)
    | _ => Text.ofDigits (text.takeWhile Char.isDigit)
  if number < 2147483648 then number else 0

/-- A number counts by its lowest byte. -/
def isTrue (value : String) : Bool :=
  if value.toList.head?.any Char.isDigit then leadingNumber value.toList % 256 != 0
  else ["on", "yes", "true"].contains (String.ofList (value.toList.map Char.toLower))

/-- Of several answers to whether the file never changes the first one counts. -/
def isImmutable (locator : Locator) : Bool := (locator.values "immutable").head?.any isTrue

def applyParameter (mode : OpenMode) : String × String → Except OpenFault OpenMode
  | ("mode", name) =>
      match OpenMode.ofName? name with
      | none => .error (.unknownMode "access" name)
      | some asked => if mode.grants asked then .ok asked else .error (.forbiddenMode name)
  | ("cache", name) =>
      if name = "shared" ∨ name = "private" then .ok mode
      else .error (.unknownMode "cache" name)
  | _ => .ok mode

def systems : List String := ["unix", "unix-none", "unix-dotfile", "unix-excl", "memdb"]

def mode (locator : Locator) : Except OpenFault OpenMode := do
  let mode ← locator.parameters.foldlM applyParameter OpenMode.readWrite
  match (locator.values "vfs").getLast? with
  | none => return mode
  | some system =>
      if !systems.contains system then throw (.unknownSystem system)
      return if systems.getLast? = some system then .memory else mode

end Locator

end Underwriting.Command
