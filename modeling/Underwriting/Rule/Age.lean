import Underwriting.Rule.Fault

/-!
Age conditions of rejection rules. A condition compares the customer's age with a threshold; a bare
number asks for exactly that age, and a blank text asks for nothing and never matches.
-/

namespace Underwriting

inductive AgeRule
  | unrestricted
  | atLeast (threshold : Int32)
  | above (threshold : Int32)
  | atMost (threshold : Int32)
  | below (threshold : Int32)
  | exactly (threshold : Int32)
deriving DecidableEq

namespace AgeRule

def isSatisfiedBy (age : Int) : AgeRule → Bool
  | .unrestricted => false
  | .atLeast threshold => threshold.toInt ≤ age
  | .above threshold => threshold.toInt < age
  | .atMost threshold => age ≤ threshold.toInt
  | .below threshold => age < threshold.toInt
  | .exactly threshold => age == threshold.toInt

def toText : AgeRule → String
  | .unrestricted => "-"
  | .atLeast threshold => ">=" ++ Text.integerText threshold.toInt
  | .above threshold => ">" ++ Text.integerText threshold.toInt
  | .atMost threshold => "<=" ++ Text.integerText threshold.toInt
  | .below threshold => "<" ++ Text.integerText threshold.toInt
  | .exactly threshold => Text.integerText threshold.toInt

instance : ToString AgeRule := ⟨toText⟩

/-- The condition that an operator builds, and the text of its threshold. An operator of two
characters wins over its first character. -/
def splitOperator : List Char → Option ((Int32 → AgeRule) × List Char)
  | '>' :: '=' :: threshold => some (.atLeast, threshold)
  | '>' :: threshold => some (.above, threshold)
  | '<' :: '=' :: threshold => some (.atMost, threshold)
  | '<' :: threshold => some (.below, threshold)
  | text => if text.all Char.isDigit then some (.exactly, text) else none

def read (text : List Char) : Except RuleFault AgeRule :=
  let rule := Text.trim text
  if rule.isEmpty then .ok .unrestricted
  else
    match splitOperator rule with
    | none => .error (.unrecognizedAge (String.ofList rule))
    | some (build, threshold) =>
        match Text.int32? (Text.trim threshold) with
        | some number => .ok (build number)
        | none => .error (.ageThreshold (String.ofList rule))

def ofText (text : String) : Except RuleFault AgeRule := read text.toList

end AgeRule

end Underwriting
