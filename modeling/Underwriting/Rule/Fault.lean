import Underwriting.Coverage

/-!
Faults in the text of a rejection rule. Each carries the rule text without the blanks around it.
-/

namespace Underwriting

inductive RuleFault
  | unrecognizedAge (text : String)
  | ageThreshold (text : String)
  | malformedAmount (text : String)
  | amountThreshold (text : String) (cause : Decimal.LiteralError)
deriving DecidableEq

namespace RuleFault

def text : RuleFault → String
  | .unrecognizedAge text => text
  | .ageThreshold text => text
  | .malformedAmount text => text
  | .amountThreshold text _ => text

def message : RuleFault → String
  | .unrecognizedAge text => "unrecognized age rule " ++ Text.quotedText text
  | .ageThreshold text =>
      "age rule " ++ Text.quotedText text ++ " has a non-integer threshold"
  | .malformedAmount text =>
      "amount rule " ++ Text.quotedText text ++ " has a malformed decimal threshold"
  | .amountThreshold text cause =>
      "amount rule " ++ Text.quotedText text ++ " has a malformed decimal threshold: " ++
        cause.message

def causes : RuleFault → List String
  | .amountThreshold _ cause => [cause.message]
  | _ => []

end RuleFault

end Underwriting
