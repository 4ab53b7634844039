import Underwriting.Rule.Fault

/-!
Amount conditions of rejection rules. A condition is a floor that an amount reaches or exceeds. A
blank text and the placeholder `- -` ask for nothing; any other text without the floor operator is
kept for reports and never matches, while a floor that is not a number is a fault.
-/

namespace Underwriting

inductive AmountRule
  | unrestricted
  | atLeast (threshold : Decimal)
  | unrecognized (text : String)
deriving DecidableEq

namespace AmountRule

def isSatisfiedBy (amount : Decimal) : AmountRule → Bool
  | .atLeast threshold => threshold.atMost amount
  | .unrestricted => false
  | .unrecognized _ => false

def toText : AmountRule → String
  | .unrestricted => "-"
  | .atLeast threshold => ">=" ++ threshold.toText
  | .unrecognized text => text ++ " (ignored)"

instance : ToString AmountRule := ⟨toText⟩

def placeholder : List Char := ['-', ' ', '-']

def isThresholdChar (char : Char) : Bool :=
  char.isDigit || char == '.' || char == '+' || char == '-' || Decimal.isExponentMark char

def read (text : List Char) : Except RuleFault AmountRule :=
  let rule := Text.trim text
  if rule.isEmpty || rule == placeholder then .ok .unrestricted
  else
    match rule with
    | '>' :: '=' :: rest =>
        let threshold := Text.trim rest
        if threshold.all isThresholdChar then
          match Decimal.read threshold with
          | .ok number => .ok (.atLeast number)
          | .error cause => .error (.amountThreshold (String.ofList rule) cause)
        else .error (.malformedAmount (String.ofList rule))
    | _ => .ok (.unrecognized (String.ofList rule))

def ofText (text : String) : Except RuleFault AmountRule := read text.toList

def violated (text : String) (amount : Decimal) : Except RuleFault Bool :=
  (ofText text).map (isSatisfiedBy amount)

end AmountRule

end Underwriting
