import Underwriting.Exchange.Records
import Underwriting.Proofs.Json.Members
import Underwriting.Proofs.Rule.PrintedRule

/-!
Records as JSON and back. A request, a coverage or a rejection rule is read back from what is written
for it, with the scale of its amount, and also if its members are written in another order.
-/

namespace Underwriting

open Json (Scalar Member)

def Json.SameMembers (value other : Json) : Prop :=
  ∃ members others, value = .object members ∧ other = .object others ∧ others.Perm members

theorem Json.sameMembers_reverse (members : List (String × Json)) :
    Json.SameMembers (.object members) (.object members.reverse) :=
  ⟨members, members.reverse, rfl, rfl, List.reverse_perm members⟩

def Json.writings (value : Json) : List String := [value.toText, value.toLines]

/-- Requests alike in everything but, at most, the minus of a zero. -/
structure Request.Alike (left right : Request) : Prop where
  contract : left.contract = right.contract
  coverageType : left.coverageType = right.coverageType
  value : left.amount.sameValue right.amount = true
  scale : left.amount.scale = right.amount.scale

structure Coverage.Alike (left right : Coverage) : Prop where
  contract : left.contract = right.contract
  coverageType : left.coverageType = right.coverageType
  value : left.amount.sameValue right.amount = true
  scale : left.amount.scale = right.amount.scale

namespace Exchange

theorem int64?_toInt (number : Int64) : int64? (.whole number.toInt) = some number := by
  rw [int64?, if_pos ⟨number.minValue_le_toInt, number.toInt_le⟩, Int64.ofInt_toInt]

theorem writes_number (name : String) (missing : Option Int64) (number : Int64) :
    (⟨name, int64?, missing⟩ : Member Int64).Writes (name, .number number.toInt) number := by
  have above : -(2 : Int) ^ 63 ≤ number.toInt := number.minValue_le_toInt
  have below : number.toInt < 2 ^ 64 := by
    have := number.toInt_lt
    omega
  refine ⟨rfl, _, rfl, ?_⟩
  simp [Member.readToken, Json.Token.toScalar, Json.NumberLiteral.toScalar_ofInt above below,
    Except.bind, int64?_toInt]

theorem writes_amount (name : String) (missing : Option Decimal) (amount : Decimal) :
    (⟨name, amount?, missing⟩ : Member Decimal).Writes (name, amount.toJson) amount.unsignZero := by
  refine ⟨rfl, _, rfl, ?_⟩
  simp [Member.readToken, Json.Token.toScalar, Json.Quotation.content_ofContent, Except.map,
    Except.bind, amount?, Decimal.toText, amount.read_toChars, Except.toOption]

theorem writes_optionalText (name : String) (missing : Option (Option String))
    (text : Option String) :
    (⟨name, optionalText?, missing⟩ : Member (Option String)).Writes
      (name, RejectionRule.textToJson text) text := by
  cases text with
  | none => exact ⟨rfl, _, rfl, rfl⟩
  | some content =>
      refine ⟨rfl, _, rfl, ?_⟩
      simp [Member.readToken, Json.Token.toScalar, Json.Quotation.content_ofContent, Except.map,
        Except.bind, optionalText?]

theorem ofChars_writings {value : Json} {text : String} (written : text ∈ value.writings) :
    Json.Token.ofChars text.toList = value.tokens := by
  obtain ⟨compact, spacious⟩ := Json.ofChars_written value
  simp only [Json.writings, List.mem_cons, List.not_mem_nil, or_false] at written
  rcases written with rfl | rfl
  · exact compact
  · exact spacious

theorem read_request (contract coverageType : Int64) (amount : Decimal) {written : Json}
    (same : Json.SameMembers (.object [(contractName, .number contract.toInt),
      (coverageTypeName, .number coverageType.toInt), ("amount", amount.toJson)]) written)
    {text : String} (among : text ∈ written.writings) :
    requestShape.read text.toList = .ok (contract, coverageType, amount.unsignZero) := by
  obtain ⟨_, members, ⟨⟩, rfl, order⟩ := same
  have apart : requestShape.NamesApart := by
    change [contractName, coverageTypeName, "amount"].Nodup
    decide
  exact Json.Shape.read_members apart (writes_number _ _ _) (writes_number _ _ _)
    (writes_amount _ _ _) order (ofChars_writings among)

theorem read_rule (rule : RejectionRule) {written : Json}
    (same : Json.SameMembers rule.toJson written) {text : String}
    (among : text ∈ written.writings) :
    ruleShape.read text.toList = .ok (rule.sequence, rule.ageRule, rule.amountRule) := by
  obtain ⟨_, members, ⟨⟩, rfl, order⟩ := same
  have apart : ruleShape.NamesApart := by
    change ["sequence", "age_rule", "amount_rule"].Nodup
    decide
  exact Json.Shape.read_members apart (writes_number _ _ _) (writes_optionalText _ _ _)
    (writes_optionalText _ _ _) order (ofChars_writings among)

end Exchange

/-- What is written for a request, a coverage or a rule is read back as an equal one with the same
scale, whichever order its members have; amounts may only lose the minus of a zero. -/
theorem written_records_read_back :
    (∀ (request : Request) (written : Json), Json.SameMembers request.toJson written →
        ∀ text ∈ written.writings, ∃ again, Request.ofJson text = .ok again ∧ again.Alike request ∧
          ((request.amount.negative = true → request.amount.mantissa ≠ 0) → again = request)) ∧
      (∀ (coverage : Coverage) (written : Json), Json.SameMembers coverage.toJson written →
        ∀ text ∈ written.writings, ∃ again, Coverage.ofJson text = .ok again ∧
          again.Alike coverage ∧
            ((coverage.amount.negative = true → coverage.amount.mantissa ≠ 0) →
              again = coverage)) ∧
        ∀ (rule : RejectionRule) (written : Json), Json.SameMembers rule.toJson written →
          ∀ text ∈ written.writings, RejectionRule.ofJson text = .ok rule := by
  refine ⟨?_, ?_, ?_⟩
  · intro request written same text among
    have read := Exchange.read_request _ _ _ same among
    refine ⟨{ request with amount := request.amount.unsignZero }, ?_, ?_, ?_⟩
    · rw [Request.ofJson, read]
      rfl
    · exact ⟨rfl, rfl, Decimal.sameValue_iff.mpr request.amount.value_unsignZero, rfl⟩
    · intro unsignedZero
      rw [Decimal.unsignZero_eq_self unsignedZero]
  · intro coverage written same text among
    have read := Exchange.read_request _ _ _ same among
    refine ⟨{ coverage with amount := coverage.amount.unsignZero }, ?_, ?_, ?_⟩
    · rw [Coverage.ofJson, read]
      rfl
    · exact ⟨rfl, rfl, Decimal.sameValue_iff.mpr coverage.amount.value_unsignZero, rfl⟩
    · intro unsignedZero
      rw [Decimal.unsignZero_eq_self unsignedZero]
  · intro rule written same text among
    rw [RejectionRule.ofJson, Exchange.read_rule rule same among]
    rfl

/-- Numbers at the ends of 64 bits, the largest mantissa at the largest scale, and a text with a mark, a
backslash, a control and a letter beyond ASCII, written backwards or with a line for each member. -/
theorem extreme_records_read_back :
    let request : Request :=
      ⟨⟨Int64.minValue⟩, ⟨Int64.maxValue⟩,
        ⟨true, 79228162514264337593543950335, 28, by decide, by decide⟩⟩
    let coverage : Coverage := ⟨⟨0⟩, ⟨7⟩, ⟨true, 0, 2, by decide, by decide⟩⟩
    let rule : RejectionRule := ⟨Int64.minValue, some "\"\\\u0001ü", none⟩
    Request.ofJson ("\x7b\"amount\":\"-7.9228162514264337593543950335\"," ++
        "\"coverage_type_id\":9223372036854775807,\"contract_id\":-9223372036854775808\x7d") =
          .ok request ∧
      (∃ again, Coverage.ofJson ("\x7b\n  \"amount\": \"-0.00\",\n  \"coverage_type_id\": 7,\n" ++
        "  \"contract_id\": 0\n\x7d") = .ok again ∧ again.Alike coverage) ∧
        RejectionRule.ofJson ("\x7b\"amount_rule\":null,\"age_rule\":\"\\\"\\\\\\u0001ü\"," ++
          "\"sequence\":-9223372036854775808\x7d") = .ok rule := by
  intro request coverage rule
  obtain ⟨ofRequest, ofCoverage, ofRule⟩ := written_records_read_back
  obtain ⟨again, read, _, exact⟩ :=
    ofRequest request _ (Json.sameMembers_reverse _) _ List.mem_cons_self
  obtain ⟨other, otherRead, alike⟩ :=
    ofCoverage coverage _ (Json.sameMembers_reverse _) _ (List.mem_cons_of_mem _ List.mem_cons_self)
  have ruleRead := ofRule rule _ (Json.sameMembers_reverse _) _ List.mem_cons_self
  refine ⟨?_, ⟨other, ?_, alike.1⟩, ?_⟩
  · rw [exact fun _ => by decide] at read
    exact (congrArg Request.ofJson (by decide +kernel)).trans read
  · exact (congrArg Coverage.ofJson (by decide +kernel)).trans otherRead
  · exact (congrArg RejectionRule.ofJson (by decide +kernel)).trans ruleRead

end Underwriting
