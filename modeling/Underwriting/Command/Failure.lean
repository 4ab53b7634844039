import Underwriting.Command.Loading
import Underwriting.Command.Opening
import Underwriting.Gate.Failure

/-!
Why a command fails. A failure is shown as its context, itself and its causes, and a rejection by
the gate has an exit code of its own, whichever command it ends.
-/

namespace Underwriting.Command

inductive Boundary
  | start
  | commit
  | rollBack
deriving DecidableEq

def Boundary.context : Boundary → String
  | .start => "begin transaction"
  | .commit => "commit transaction"
  | .rollBack => "roll back transaction"

inductive Failure
  | logging (cause : FileFault)
  | tornFilter
  | settings (cause : LoadFault)
  | opening (path : String) (cause : OpenFault)
  | timeoutTooLong
  | transaction (boundary : Boundary) (cause : Store.Fault)
  | gate (context : Option String) (cause : Gate.Failure)
deriving DecidableEq

namespace Failure

def chain : Failure → List String
  | .logging cause => ["failed to initialize logging", cause.message]
  | .tornFilter => ["initialize logging", "a directive has a mark inside of a character"]
  | .settings cause => "load configuration" :: cause.message :: cause.causes
  | .opening path cause => ("open database " ++ path) :: cause.message :: cause.causes
  | .timeoutTooLong => ["set busy timeout", "too long"]
  | .transaction boundary cause => boundary.context :: cause.message :: cause.causes
  | .gate context cause => context.toList ++ cause.message :: cause.causes

def message (failure : Failure) : String := "error: " ++ ": ".intercalate failure.chain

def rejectedExit : Nat := 2

def failedExit : Nat := 1

/-- The exit code of a program that gives up without a report. -/
def abandonedExit : Nat := 101

def exit : Failure → Nat
  | .tornFilter => abandonedExit
  | .timeoutTooLong => abandonedExit
  | .gate _ cause => if cause.isRejection then rejectedExit else failedExit
  | _ => failedExit

end Failure

end Underwriting.Command
