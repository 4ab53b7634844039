import Underwriting.Proofs.Decimal.NumberLiteral
import Underwriting.Proofs.Rule.AmountGrammar

/-!
Exact reading. While digits are read, a decimal keeps all of them, or gives up places behind the last
one that it has room for. So a plain literal is read as the number it stands for exactly if a decimal
has that number, and one with an exponent exactly if a decimal has it in front of the exponent and
behind it; other literals that are read are changed to a neighbour.
-/

namespace Underwriting.Decimal

open Text

def IsDecimal (number : ℚ) : Prop := ∃ amount : Decimal, amount.value = number

/-- There is no room for the places at the back: all places are taken, or one digit more leaves the
mantissa. -/
def NoRoom (whole front back : List Char) : Prop :=
  front.length = maxScale ∨
    ∃ digit rest, back = digit :: rest ∧ mantissaBound ≤ ofDigits (whole ++ front ++ [digit])

theorem NoRoom.append {whole front back : List Char} (noRoom : NoRoom whole front back)
    (more : List Char) : NoRoom whole front (back ++ more) := by
  rcases noRoom with taken | ⟨digit, rest, rfl, large⟩
  · exact Or.inl taken
  · exact Or.inr ⟨digit, rest ++ more, rfl, large⟩

theorem NoRoom.fraction_ne_nil {whole front back : List Char} (noRoom : NoRoom whole front back) :
    front ++ back ≠ [] := by
  rcases noRoom with taken | ⟨digit, rest, rfl, _⟩
  · intro none
    rw [(List.append_eq_nil_iff.mp none).1] at taken
    exact absurd taken (by decide)
  · simp

/-- A number of a decimal has zeros only where there is no room. -/
theorem NoRoom.zeros {whole front back : List Char} (noRoom : NoRoom whole front back)
    (digits : AreDigits back) {mantissa scale : Nat} (bounded : mantissa < mantissaBound)
    (places : scale ≤ maxScale)
    (same : ofDigits (whole ++ front ++ back) * 10 ^ scale =
      mantissa * 10 ^ (front.length + back.length)) : ofDigits back = 0 := by
  -- A number without the places at the back leaves zeros there; one with more places than the front
  -- has at least the digits that do not fit.
  by_cases within : scale ≤ front.length
  · have power : 10 ^ (front.length + back.length) =
        10 ^ (front.length - scale) * 10 ^ back.length * 10 ^ scale := by
      rw [← pow_add, ← pow_add]
      congr 1
      omega
    rw [ofDigits_append, power, ← Nat.mul_assoc, ← Nat.mul_assoc] at same
    have reduced := Nat.mul_right_cancel (Nat.pow_pos (by decide)) same
    have multiple : 10 ^ back.length ∣ ofDigits back := by
      apply (Nat.dvd_add_right (Dvd.intro_left (ofDigits (whole ++ front)) rfl)).mp
      rw [reduced]
      exact Dvd.intro_left _ rfl
    exact Nat.eq_zero_of_dvd_of_lt multiple (ofDigits_lt digits)
  · rcases noRoom with taken | ⟨digit, rest, rfl, large⟩
    · omega
    · exfalso
      have split : ofDigits (whole ++ front ++ digit :: rest) =
          ofDigits (whole ++ front ++ [digit]) * 10 ^ rest.length + ofDigits rest := by
        rw [← ofDigits_append]
        simp
      have much : mantissaBound * 10 ^ rest.length ≤ ofDigits (whole ++ front ++ digit :: rest) := by
        rw [split]
        exact le_trans (Nat.mul_le_mul_right _ large) (Nat.le_add_right _ _)
      have beyond : mantissaBound * 10 ^ (front.length + (digit :: rest).length) ≤
          mantissa * 10 ^ (front.length + (digit :: rest).length) := by
        calc mantissaBound * 10 ^ (front.length + (digit :: rest).length)
            = mantissaBound * 10 ^ rest.length * 10 ^ (front.length + 1) := by
              rw [Nat.mul_assoc, ← pow_add, List.length_cons]
              congr 2
              omega
          _ ≤ ofDigits (whole ++ front ++ digit :: rest) * 10 ^ scale :=
              Nat.mul_le_mul much (Nat.pow_le_pow_right (by decide) (by omega))
          _ = _ := same
      exact absurd (Nat.le_of_mul_le_mul_right beyond (Nat.pow_pos (by decide))) (not_le.mpr bounded)

def pointed (whole : List Char) : Option (List Char) → List Char
  | none => whole
  | some places => whole ++ '.' :: places

namespace Reading

structure Drops (reading : Reading) (whole fraction : List Char) : Prop where
  full : reading.full = true
  pointSeen : reading.pointSeen = true
  whole_lt : ofDigits whole < mantissaBound
  cut : ∃ front back, fraction = front ++ back ∧ NoRoom whole front back ∧
    (ofDigits back = 0 →
      reading.mantissa = ofDigits (whole ++ front) ∧ reading.scale = front.length)

inductive Follows (reading : Reading) (whole : List Char) : Option (List Char) → Prop
  | kept {places : Option (List Char)} :
      reading.Holds (ofDigits (whole ++ places.getD [])) (places.getD []).length places.isSome
        (!(whole ++ places.getD []).isEmpty) →
      Follows reading whole places
  | dropped {fraction : List Char} : reading.Drops whole fraction →
      Follows reading whole (some fraction)

structure Reads (reading : Reading) (whole : List Char) (places : Option (List Char)) : Prop where
  wholeDigits : AreDigits whole
  placesDigits : AreDigits (places.getD [])
  follows : reading.Follows whole places

theorem start_reads : start.Reads [] none := ⟨by simp [AreDigits], by simp [AreDigits], .kept start_holds⟩

theorem close_ok {reading next : Reading} {digit : Nat} (closed : reading.close digit = .ok next) :
    next.full = true ∧ next.pointSeen = reading.pointSeen ∧
      (digit = 0 → next.mantissa = reading.mantissa ∧ next.scale = reading.scale) := by
  unfold close at closed
  split at closed
  · cases closed
    exact ⟨rfl, rfl, fun _ => ⟨rfl, rfl⟩⟩
  · have nonzero : digit ≠ 0 := by omega
    split at closed
    · cases closed
      exact ⟨rfl, rfl, fun zero => absurd zero nonzero⟩
    · split at closed
      · cases closed
      · cases closed
        exact ⟨rfl, rfl, fun zero => absurd zero nonzero⟩

variable {reading next : Reading} {whole fraction : List Char} {char : Char}

theorem dropped_digit (drops : reading.Drops whole fraction) (digit : char.isDigit = true)
    (stepped : reading.step char = .ok next) : next.Drops whole (fraction ++ [char]) := by
  obtain ⟨full, pointSeen, whole_lt, front, back, rfl, noRoom, kept⟩ := drops
  simp only [step, digit, if_true, takeDigit, full, Except.ok.injEq] at stepped
  subst stepped
  refine ⟨rfl, pointSeen, whole_lt, front, back ++ [char], List.append_assoc _ _ _,
    noRoom.append _, ?_⟩
  intro zeros
  rw [ofDigits_concat] at zeros
  exact kept (by omega)

theorem whole_lt_of_holds {mantissa scale : Nat} {pointSeen digitSeen : Bool}
    (holds : reading.Holds mantissa scale pointSeen digitSeen)
    (same : mantissa = ofDigits (whole ++ fraction)) : ofDigits whole < mantissaBound := by
  have bounded := reading.mantissa_lt
  rw [holds.mantissa_eq, same] at bounded
  exact lt_of_le_of_lt (ofDigits_le_append whole fraction) bounded

theorem kept_digit {digitSeen : Bool}
    (holds : reading.Holds (ofDigits (whole ++ fraction)) fraction.length true digitSeen)
    (digit : char.isDigit = true) (stepped : reading.step char = .ok next) :
    next.Follows whole (some (fraction ++ [char])) := by
  have shifted : ofDigits (whole ++ fraction) * 10 + digitValue char =
      ofDigits (whole ++ (fraction ++ [char])) := by
    rw [← List.append_assoc, ofDigits_concat]
  by_cases room : fraction.length + 1 ≤ maxScale ∧
      ofDigits (whole ++ fraction) * 10 + digitValue char < mantissaBound
  · obtain ⟨after, found, nextHolds⟩ := step_digit holds digit room.2 fun _ => room.1
    obtain rfl : next = after := Except.ok.inj (stepped.symm.trans found)
    have some : (!(whole ++ (fraction ++ [char])).isEmpty) = true := by simp
    refine .kept ?_
    rw [Option.getD_some, some, ← shifted, List.length_append]
    exact nextHolds
  · -- The digit itself is the first that is given up.
    have closed : { reading with digitSeen := true }.close (digitValue char) = .ok next := by
      obtain ⟨mantissa, scale, pointSeen, _, notFull⟩ := holds
      have notClosed : ¬reading.full = true := by simp [notFull]
      rw [← mantissa, ← scale] at room
      rw [← stepped, step, if_pos digit, takeDigit, if_neg notClosed, if_pos pointSeen, dif_neg room]
    obtain ⟨full, pointSeen, same⟩ := close_ok closed
    refine .dropped ⟨full, pointSeen.trans holds.pointSeen_eq, whole_lt_of_holds holds rfl, fraction,
      [char], rfl, ?_, ?_⟩
    · rcases not_and_or.mp room with taken | large
      · left
        have := reading.scale_le
        rw [holds.scale_eq] at this
        omega
      · right
        refine ⟨char, [], rfl, ?_⟩
        rw [ofDigits_concat]
        omega
    · intro zero
      rw [ofDigits_singleton] at zero
      obtain ⟨sameMantissa, sameScale⟩ := same zero
      exact ⟨sameMantissa.trans holds.mantissa_eq, sameScale.trans holds.scale_eq⟩

theorem whole_digit {digitSeen : Bool}
    (holds : reading.Holds (ofDigits whole) 0 false digitSeen)
    (digit : char.isDigit = true) (stepped : reading.step char = .ok next) :
    next.Follows (whole ++ [char]) none := by
  by_cases room : ofDigits whole * 10 + digitValue char < mantissaBound
  · obtain ⟨after, found, nextHolds⟩ := step_digit holds digit room (by simp)
    obtain rfl : next = after := Except.ok.inj (stepped.symm.trans found)
    have some : (!(whole ++ [char]).isEmpty) = true := by simp
    refine .kept ?_
    rw [Option.getD_none, List.append_nil, some, ofDigits_concat]
    exact nextHolds
  · obtain ⟨mantissa, scale, pointSeen, _, notFull⟩ := holds
    simp [step, digit, takeDigit, notFull, pointSeen, mantissa, room] at stepped

theorem skipSeparator_cases (reading : Reading) :
    reading.skipSeparator = reading ∨
      reading.scale = maxScale ∧ reading.skipSeparator = { reading with full := true } := by
  unfold skipSeparator
  split
  · rename_i small
    exact Or.inr ⟨small.1, rfl⟩
  · exact Or.inl rfl

theorem follows_separator {places : Option (List Char)} (follows : reading.Follows whole places) :
    reading.skipSeparator.Follows whole places := by
  rcases skipSeparator_cases reading with same | ⟨taken, closed⟩
  · rwa [same]
  · rw [closed]
    cases follows with
    | dropped drops =>
        obtain ⟨_, pointSeen, whole_lt, cut⟩ := drops
        exact .dropped ⟨rfl, pointSeen, whole_lt, cut⟩
    | kept holds =>
        have length : (places.getD []).length = maxScale := holds.scale_eq.symm.trans taken
        cases places with
        | none => exact absurd length (by decide)
        | some fraction =>
            exact .dropped ⟨rfl, holds.pointSeen_eq, whole_lt_of_holds holds rfl, fraction, [],
              by simp, Or.inl length, fun _ => ⟨holds.mantissa_eq, holds.scale_eq⟩⟩

theorem follows_point (follows : reading.Follows whole none)
    (stepped : reading.step '.' = .ok next) : next.Follows whole (some []) := by
  cases follows with
  | kept holds =>
      obtain ⟨after, found, nextHolds⟩ := step_point holds
      obtain rfl : next = after := Except.ok.inj (stepped.symm.trans found)
      exact .kept nextHolds

theorem Follows.pointSeen {places : Option (List Char)} (follows : reading.Follows whole places) :
    reading.pointSeen = places.isSome := by
  cases follows with
  | kept holds => exact holds.pointSeen_eq
  | dropped drops => exact drops.pointSeen

/-- One character more, which a separator leaves out. -/
theorem step_reads {places : Option (List Char)} (reads : reading.Reads whole places)
    (stepped : reading.step char = .ok next) :
    ∃ digits fraction, next.Reads digits fraction ∧
      pointed digits fraction = pointed whole places ++ withoutSeparators [char] := by
  obtain ⟨wholeDigits, placesDigits, follows⟩ := reads
  by_cases digit : char.isDigit = true
  · have single : AreDigits [char] := by simpa [AreDigits] using digit
    have kept : withoutSeparators [char] = [char] := by
      have apart : char ≠ '_' := by
        rintro rfl
        simp [Char.isDigit] at digit
      simp [withoutSeparators, apart]
    rw [kept]
    cases places with
    | none =>
        cases follows with
        | kept holds =>
            simp only [Option.getD_none, List.append_nil] at holds
            exact ⟨whole ++ [char], none, ⟨areDigits_append wholeDigits single, placesDigits,
              whole_digit holds digit stepped⟩, rfl⟩
    | some fraction =>
        refine ⟨whole, some (fraction ++ [char]), ⟨wholeDigits,
          areDigits_append placesDigits single, ?_⟩, by simp [pointed]⟩
        cases follows with
        | kept holds => exact kept_digit holds digit stepped
        | dropped drops => exact .dropped (dropped_digit drops digit stepped)
  · by_cases point : char = '.'
    · subst point
      cases places with
      | none =>
          exact ⟨whole, some [], ⟨wholeDigits, by simp [AreDigits], follows_point follows stepped⟩,
            rfl⟩
      | some fraction =>
          have pointSeen := follows.pointSeen
          simp [step, Char.isDigit, pointSeen] at stepped
    · by_cases separator : char = '_'
      · subst separator
        have skipped : next = reading.skipSeparator := by
          cases seen : reading.digitSeen with
          | false => simp [step, Char.isDigit, seen] at stepped
          | true => simpa [step, Char.isDigit, seen] using stepped.symm
        subst skipped
        exact ⟨whole, places, ⟨wholeDigits, placesDigits, follows_separator follows⟩,
          by simp [withoutSeparators]⟩
      · simp [step, digit, point, separator] at stepped

theorem run_reads {last : Reading} {places : Option (List Char)} {chars : List Char}
    (reads : reading.Reads whole places) (ran : reading.run chars = .ok last) :
    ∃ digits fraction, last.Reads digits fraction ∧
      pointed digits fraction = pointed whole places ++ withoutSeparators chars := by
  induction chars generalizing reading whole places with
  | nil =>
      cases ran
      exact ⟨whole, places, reads, by simp [withoutSeparators]⟩
  | cons char rest ih =>
      cases stepped : reading.step char with
      | error fault => simp [run, stepped, Except.bind] at ran
      | ok next =>
          simp only [run, stepped, Except.bind] at ran
          obtain ⟨middle, middlePlaces, middleReads, first⟩ := step_reads reads stepped
          obtain ⟨digits, fraction, lastReads, others⟩ := ih middleReads ran
          refine ⟨digits, fraction, lastReads, ?_⟩
          rw [others, first, List.append_assoc, ← withoutSeparators_append]
          rfl

theorem Reads.given {places : Option (List Char)} (reads : reading.Reads whole places)
    (seen : reading.digitSeen = true) : whole ++ places.getD [] ≠ [] := by
  cases reads.follows with
  | kept holds => simpa [holds.digitSeen_eq] using seen
  | dropped drops =>
      obtain ⟨_, _, _, front, back, rfl, noRoom, _⟩ := drops
      exact List.append_ne_nil_of_right_ne_nil _ noRoom.fraction_ne_nil

theorem Reads.whole_lt {places : Option (List Char)} (reads : reading.Reads whole places) :
    ofDigits whole < mantissaBound := by
  cases reads.follows with
  | kept holds => exact whole_lt_of_holds holds rfl
  | dropped drops => exact drops.whole_lt

theorem Reads.mantissa_mul {places : Option (List Char)} (reads : reading.Reads whole places)
    {mantissa scale : Nat} (bounded : mantissa < mantissaBound) (few : scale ≤ maxScale)
    (same : ofDigits (whole ++ places.getD []) * 10 ^ scale =
      mantissa * 10 ^ (places.getD []).length) :
    reading.mantissa * 10 ^ (places.getD []).length =
      ofDigits (whole ++ places.getD []) * 10 ^ reading.scale := by
  have placesDigits := reads.placesDigits
  cases reads.follows with
  | kept holds => rw [holds.mantissa_eq, holds.scale_eq]
  | dropped drops =>
      obtain ⟨_, _, _, front, back, rfl, noRoom, kept⟩ := drops
      simp only [Option.getD_some] at same placesDigits ⊢
      have backDigits : AreDigits back := fun char member => placesDigits char (by simp [member])
      rw [← List.append_assoc, List.length_append] at same
      have zeros := noRoom.zeros backDigits bounded few same
      obtain ⟨sameMantissa, sameScale⟩ := kept zeros
      rw [sameMantissa, sameScale, ← List.append_assoc, ofDigits_append _ back, zeros,
        List.length_append, pow_add]
      ring

end Reading

namespace PlainLiteral

theorem abs_value (literal : PlainLiteral) :
    |literal.value| = (ofDigits literal.digits : ℚ) / 10 ^ literal.fraction.length := by
  have size : |(ofDigits literal.digits : ℚ) / 10 ^ literal.fraction.length| =
      (ofDigits literal.digits : ℚ) / 10 ^ literal.fraction.length := abs_of_nonneg (by positivity)
  rw [value, mul_div_assoc, abs_mul, size]
  split <;> simp

theorem abs_value_lt {literal : PlainLiteral} (whole_lt : ofDigits literal.whole < mantissaBound) :
    |literal.value| < 2 ^ 96 := by
  have fraction := ofDigits_lt literal.placesDigits
  have bounded : ofDigits literal.digits < mantissaBound * 10 ^ literal.fraction.length := by
    calc ofDigits literal.digits
        < (ofDigits literal.whole + 1) * 10 ^ literal.fraction.length := by
          rw [digits, ofDigits_append, Nat.succ_mul]
          exact Nat.add_lt_add_left fraction _
      _ ≤ mantissaBound * 10 ^ literal.fraction.length := Nat.mul_le_mul_right _ whole_lt
  rw [abs_value, div_lt_iff₀ (by positivity), ← cast_powerOfTwo]
  exact_mod_cast bounded

theorem shifted_of_isDecimal {literal : PlainLiteral} (known : IsDecimal literal.value) :
    ∃ mantissa scale : Nat, mantissa < mantissaBound ∧ scale ≤ maxScale ∧
      ofDigits literal.digits * 10 ^ scale = mantissa * 10 ^ literal.fraction.length := by
  obtain ⟨amount, same⟩ := known
  refine ⟨amount.mantissa, amount.scale, amount.mantissa_lt, amount.scale_le, ?_⟩
  have sizes := congrArg abs same
  rw [Decimal.abs_value, abs_value, div_eq_div_iff (by positivity) (by positivity)] at sizes
  exact_mod_cast sizes.symm

theorem value_toDecimal_of_reads {literal : PlainLiteral} {reading : Reading}
    (reads : reading.Reads literal.whole literal.places) (known : IsDecimal literal.value) :
    (reading.toDecimal (decide (literal.sign = .minus))).value = literal.value := by
  obtain ⟨mantissa, scale, bounded, few, shifted⟩ := shifted_of_isDecimal known
  have sizes := reads.mantissa_mul bounded few shifted
  have size : (reading.mantissa : ℚ) / 10 ^ reading.scale =
      ofDigits literal.digits / 10 ^ literal.fraction.length := by
    rw [div_eq_div_iff (by positivity) (by positivity)]
    exact_mod_cast sizes
  rw [Reading.toDecimal, value_unsignZero, value_eq, value, mul_div_assoc, ← size]
  by_cases minus : literal.sign = .minus <;> simp [minus]

end PlainLiteral

theorem exists_plainLiteral {text : List Char} {number : Decimal}
    (accepted : readPlain text = .ok number) :
    ∃ literal : PlainLiteral, withoutSeparators text = literal.toChars ∧ |literal.value| < 2 ^ 96 ∧
      (IsDecimal literal.value → number.value = literal.value) := by
  obtain ⟨sign, shape, negative⟩ := exists_sign text
  unfold readPlain at accepted
  split at accepted
  · cases accepted
  · cases ran : Reading.start.run (splitSign text).2 with
    | error fault => simp [ran, Except.bind] at accepted
    | ok last =>
        simp only [ran, Except.bind] at accepted
        split at accepted
        · rename_i seen
          cases accepted
          obtain ⟨whole, places, reads, body⟩ := Reading.run_reads Reading.start_reads ran
          let literal : PlainLiteral :=
            ⟨sign, whole, places, reads.wholeDigits, reads.placesDigits, reads.given seen⟩
          refine ⟨literal, ?_, PlainLiteral.abs_value_lt reads.whole_lt, ?_⟩
          · have spelled : literal.body = withoutSeparators (splitSign text).2 := by
              rw [← List.nil_append (withoutSeparators _)]
              exact (by cases places <;> rfl : literal.body = pointed whole places).trans body
            have signKept : withoutSeparators sign.chars = sign.chars := by cases sign <;> rfl
            rw [PlainLiteral.toChars, spelled, ← signKept, ← withoutSeparators_append, ← shape]
          · intro known
            rw [negative]
            exact PlainLiteral.value_toDecimal_of_reads reads known
        · cases accepted

/-- A number that an exponent lowers is a decimal's if it is one with the exponent, since it is not too
large. -/
theorem value_scaleDown_iff {base : Decimal} {number : ℚ} {size : Nat} (few : size ≤ maxScale)
    (bounded : |number| < 2 ^ 96) (kept : IsDecimal number → base.value = number) :
    (base.scaleDown size).value = number * (10 ^ size)⁻¹ ↔
      IsDecimal number ∧ IsDecimal (number * (10 ^ size)⁻¹) := by
  have power : (10 : ℚ) ^ size ≠ 0 := by positivity
  constructor
  · intro same
    have small : |(base.scaleDown size).value| * 10 ^ size < 2 ^ 96 := by
      rwa [same, abs_mul, abs_of_pos (by positivity : (0 : ℚ) < (10 ^ size)⁻¹), mul_assoc,
        inv_mul_cancel₀ power, mul_one]
    obtain ⟨raised, fits⟩ := exists_scaleUp small
    refine ⟨⟨raised, ?_⟩, ⟨_, same⟩⟩
    rw [value_scaleUp fits, same, mul_assoc, inv_mul_cancel₀ power, mul_one]
  · rintro ⟨known, amount, same⟩
    rw [← kept known, ← div_eq_mul_inv] at same ⊢
    exact value_scaleDown few (dvd_mantissa_of_value_eq same)

theorem value_scaleUp_iff {base raised : Decimal} {number : ℚ} {size : Nat}
    (fits : base.scaleUp size = .ok raised) (kept : IsDecimal number → base.value = number) :
    raised.value = number * 10 ^ size ↔ IsDecimal number ∧ IsDecimal (number * 10 ^ size) := by
  have raisedValue := value_scaleUp fits
  constructor
  · intro same
    have baseValue : base.value = number :=
      mul_right_cancel₀ (by positivity) (raisedValue.symm.trans same)
    exact ⟨⟨base, baseValue⟩, ⟨raised, same⟩⟩
  · rintro ⟨known, _⟩
    rw [raisedValue, kept known]

def ReadOf (literal : NumberLiteral) (amount : Decimal) : Prop :=
  amount.value = literal.value ↔ IsDecimal literal.base.value ∧ IsDecimal literal.value

theorem exists_literal_of_readScientific {text : List Char} {amount : Decimal}
    (accepted : readScientific text = .ok amount) :
    ∃ literal, Spells text literal ∧ ReadOf literal amount := by
  unfold readScientific at accepted
  cases plain : readPlain (text.takeWhile (!isExponentMark ·)) with
  | error fault => simp [plain, Except.bind] at accepted
  | ok base =>
      cases found : exponent? (text.dropWhile (!isExponentMark ·)).tail with
      | none => simp [plain, found, Except.bind] at accepted
      | some moved =>
          obtain ⟨lowers, size⟩ := moved
          simp only [plain, found, Except.bind] at accepted
          obtain ⟨baseLiteral, baseSpelled, bounded, kept⟩ := exists_plainLiteral plain
          obtain ⟨exponent, sameSign, sameSize, spelled⟩ := exists_marked found
          refine ⟨⟨baseLiteral, some exponent⟩, ?_, ?_⟩
          · rw [Spells, spelled, baseSpelled]
            rfl
          · split at accepted
            · cases accepted
            · rename_i few
              cases lowers with
              | true =>
                  cases accepted
                  simp only [ReadOf, NumberLiteral.value, Option.map_some, Option.getD_some,
                    Exponent.factor, sameSign, sameSize, if_true]
                  exact value_scaleDown_iff (not_lt.mp few) bounded kept
              | false =>
                  simp only [ReadOf, NumberLiteral.value, Option.map_some, Option.getD_some,
                    Exponent.factor, sameSign, sameSize, Bool.false_eq_true, if_false]
                  exact value_scaleUp_iff accepted kept

theorem exists_literal_of_read {text : List Char} {amount : Decimal}
    (accepted : read text = .ok amount) :
    ∃ literal, Spells text literal ∧ ReadOf literal amount := by
  unfold read at accepted
  split at accepted
  · rename_i plain
    cases accepted
    obtain ⟨literal, spelled, _, kept⟩ := exists_plainLiteral plain
    refine ⟨⟨literal, none⟩, ?_, ?_⟩
    · rw [Spells, spelled]
      exact (List.append_nil _).symm
    · have value : (⟨literal, none⟩ : NumberLiteral).value = literal.value := mul_one _
      rw [ReadOf, value, and_self]
      exact ⟨fun same => ⟨amount, same⟩, kept⟩
  · split at accepted
    · exact exists_literal_of_readScientific accepted
    · cases accepted

end Decimal

open Text Decimal

/-- A text that is read as an amount stands for just that amount, and one that stands for a number
without a decimal is refused. -/
def ReadExactly (text : String) : Prop :=
  (∀ amount, amountOfText text = .ok amount → Denotes (trim text.toList) amount.value) ∧
    ∀ number, Denotes (trim text.toList) number → ¬IsDecimal number →
      amountOfText text = .error (.amount text)

theorem amountOfText_cases (text : String) :
    (∃ amount, amountOfText text = .ok amount) ∨ amountOfText text = .error (.amount text) := by
  unfold amountOfText
  split
  · exact Or.inl ⟨_, rfl⟩
  · exact Or.inr rfl

/-- Amounts are read exactly but for the literals that are read although no decimal has their number, or
the number in front of their exponent. -/
theorem readExactly_iff (text : String) :
    ReadExactly text ↔ ∀ literal, Spells (trim text.toList) literal →
      (∃ amount, amountOfText text = .ok amount) →
        IsDecimal literal.base.value ∧ IsDecimal literal.value := by
  constructor
  · rintro ⟨exact, _⟩ literal spelled ⟨amount, accepted⟩
    obtain ⟨read, readSpelled, readOf⟩ :=
      exists_literal_of_read (amountOfText_eq_ok_iff.mp accepted)
    obtain ⟨denoted, denotedSpelled, same⟩ := exact amount accepted
    have reached : amount.value = read.value :=
      same.symm.trans (denotedSpelled.values_eq readSpelled).2
    obtain ⟨sameBase, sameValue⟩ := spelled.values_eq readSpelled
    rw [sameBase, sameValue]
    exact readOf.mp reached
  · intro representable
    constructor
    · intro amount accepted
      obtain ⟨literal, spelled, readOf⟩ :=
        exists_literal_of_read (amountOfText_eq_ok_iff.mp accepted)
      exact ⟨literal, spelled, (readOf.mpr (representable literal spelled ⟨amount, accepted⟩)).symm⟩
    · rintro number ⟨literal, spelled, rfl⟩ unknown
      rcases amountOfText_cases text with accepted | refused
      · exact absurd (representable literal spelled accepted).2 unknown
      · exact refused

theorem not_readExactly_beyond_places : ¬ReadExactly "9.99999999999999999999999999999" := by
  rintro ⟨exact, _⟩
  let literal : NumberLiteral :=
    ⟨⟨.absent, ['9'], some "99999999999999999999999999999".toList, by decide, by decide, by decide⟩,
      none⟩
  have spelled : Spells (trim "9.99999999999999999999999999999".toList) literal := by
    unfold Spells
    decide
  have accepted : amountOfText "9.99999999999999999999999999999" =
      .ok ⟨false, 10 ^ 28, 27, by decide, by decide⟩ := by
    decide +kernel
  obtain ⟨denoted, denotedSpelled, same⟩ := exact _ accepted
  have number : ofDigits literal.base.digits = 10 ^ 30 - 1 := by decide
  have places : literal.base.fraction.length = 29 := by decide
  have unsigned : literal.base.sign ≠ .minus := by decide
  rw [(denotedSpelled.values_eq spelled).2, NumberLiteral.value, PlainLiteral.value, if_neg unsigned,
    number, places] at same
  norm_num [literal, value, signedMantissa] at same

end Underwriting
