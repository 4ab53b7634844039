import Underwriting.Proofs.Decimal.Value

/-!
Reading decimal literals of digits, a point and an exponent. While all digits and places fit, the
mantissa is the number of the digits and the scale the count of places; so a decimal reads back from
its text, up to the minus of a zero. An exponent moves the point, and where that takes places away,
digits are rounded off.
-/

namespace Underwriting.Decimal

open Text

namespace Reading

structure Holds (reading : Reading) (mantissa scale : Nat) (pointSeen digitSeen : Bool) : Prop where
  mantissa_eq : reading.mantissa = mantissa
  scale_eq : reading.scale = scale
  pointSeen_eq : reading.pointSeen = pointSeen
  digitSeen_eq : reading.digitSeen = digitSeen
  notFull : reading.full = false

theorem start_holds : start.Holds 0 0 false false := ⟨rfl, rfl, rfl, rfl, rfl⟩

theorem run_append (reading : Reading) (front back : List Char) :
    reading.run (front ++ back) = (reading.run front).bind fun next => next.run back := by
  induction front generalizing reading with
  | nil => rfl
  | cons char rest ih =>
      simp only [List.cons_append, run]
      cases reading.step char with
      | error fault => rfl
      | ok next => exact ih next

variable {reading : Reading} {mantissa scale : Nat} {pointSeen digitSeen : Bool}

theorem step_digit (holds : reading.Holds mantissa scale pointSeen digitSeen) {char : Char}
    (digit : char.isDigit = true) (fits : mantissa * 10 + digitValue char < mantissaBound)
    (places : pointSeen = true → scale + 1 ≤ maxScale) :
    ∃ next, reading.step char = .ok next ∧
      next.Holds (mantissa * 10 + digitValue char) (if pointSeen then scale + 1 else scale)
        pointSeen true := by
  obtain ⟨rfl, rfl, rfl, _, notFull⟩ := holds
  simp only [step, digit, if_true, takeDigit, notFull, Bool.false_eq_true, if_false]
  cases seen : reading.pointSeen with
  | true =>
      have room := places seen
      simp only [room, fits, and_self, dite_true, if_true]
      exact ⟨_, rfl, rfl, rfl, rfl, rfl, rfl⟩
  | false =>
      simp only [fits, dite_true, Bool.false_eq_true, if_false]
      exact ⟨_, rfl, rfl, rfl, rfl, rfl, rfl⟩

theorem step_point (holds : reading.Holds mantissa scale false digitSeen) :
    ∃ next, reading.step '.' = .ok next ∧ next.Holds mantissa scale true digitSeen := by
  obtain ⟨rfl, rfl, notSeen, rfl, notFull⟩ := holds
  refine ⟨{ reading with pointSeen := true }, ?_, rfl, rfl, rfl, rfl, notFull⟩
  simp [step, notSeen, Char.isDigit]

theorem run_digits (holds : reading.Holds mantissa scale pointSeen digitSeen) {chars : List Char}
    (digits : AreDigits chars) (fits : Nat.ofDigitChars 10 chars mantissa < mantissaBound)
    (places : pointSeen = true → scale + chars.length ≤ maxScale) :
    ∃ next, reading.run chars = .ok next ∧
      next.Holds (Nat.ofDigitChars 10 chars mantissa)
        (if pointSeen then scale + chars.length else scale) pointSeen
        (digitSeen || !chars.isEmpty) := by
  induction chars generalizing reading mantissa scale digitSeen with
  | nil => exact ⟨reading, rfl, by simpa using holds⟩
  | cons char rest ih =>
      have shifted : Nat.ofDigitChars 10 (char :: rest) mantissa =
          Nat.ofDigitChars 10 rest (mantissa * 10 + digitValue char) := by
        rw [Nat.ofDigitChars_cons, Nat.mul_comm]
        rfl
      rw [shifted] at fits ⊢
      have prefixFits : mantissa * 10 + digitValue char < mantissaBound := by
        rw [Nat.ofDigitChars_eq_ofDigitChars_zero] at fits
        have := Nat.le_mul_of_pos_left (mantissa * 10 + digitValue char)
          (Nat.pow_pos (n := rest.length) (by decide : 0 < 10))
        omega
      obtain ⟨next, stepped, nextHolds⟩ := step_digit holds (digits char (by simp)) prefixFits
        fun seen => by have := places seen; simp only [List.length_cons] at this; omega
      obtain ⟨last, ran, lastHolds⟩ := ih nextHolds (fun other member => digits other (by simp [member]))
        fits fun seen => by have := places seen; simp only [seen, if_true, List.length_cons] at this ⊢; omega
      refine ⟨last, ?_, ?_⟩
      · simp only [run, stepped, Except.bind]
        exact ran
      · have counted : (if pointSeen then (if pointSeen then scale + 1 else scale) + rest.length
            else if pointSeen then scale + 1 else scale) =
            if pointSeen then scale + (char :: rest).length else scale := by
          cases pointSeen
          · simp
          · simp only [if_true, List.length_cons]
            omega
        rw [counted] at lastHolds
        simpa using lastHolds

theorem run_pointed {whole fraction : List Char} (wholeDigits : AreDigits whole)
    (fractionDigits : AreDigits fraction) (fits : ofDigits (whole ++ fraction) < mantissaBound)
    (places : fraction.length ≤ maxScale) :
    ∃ next, start.run (whole ++ '.' :: fraction) = .ok next ∧
      next.Holds (ofDigits (whole ++ fraction)) fraction.length true
        (!whole.isEmpty || !fraction.isEmpty) := by
  have joined : Nat.ofDigitChars 10 fraction (ofDigits whole) = ofDigits (whole ++ fraction) := by
    rw [ofDigits, ofDigits, Nat.ofDigitChars_append]
  have wholeFits : ofDigits whole < mantissaBound :=
    lt_of_le_of_lt (ofDigits_le_append whole fraction) fits
  obtain ⟨front, ranFront, frontHolds⟩ := run_digits start_holds wholeDigits wholeFits (by simp)
  obtain ⟨middle, stepped, middleHolds⟩ := step_point frontHolds
  obtain ⟨last, ranLast, lastHolds⟩ := run_digits middleHolds fractionDigits
    (by rw [← ofDigits, joined]; exact fits) (by simpa using places)
  refine ⟨last, ?_, ?_⟩
  · rw [run_append, ranFront]
    simp only [Except.bind, run, stepped]
    exact ranLast
  · rw [← ofDigits, joined] at lastHolds
    simpa using lastHolds

end Reading

theorem splitSign_of_unsigned {text : List Char} (noMinus : text.head? ≠ some '-')
    (noPlus : text.head? ≠ some '+') : splitSign text = (false, text) := by
  unfold splitSign
  split
  · exact absurd rfl noMinus
  · exact absurd rfl noPlus
  · rfl

theorem splitSign_signChars (negative : Bool) {chars : List Char} (digits : AreDigits chars)
    (given : chars ≠ []) (rest : List Char) :
    splitSign (signChars negative ++ (chars ++ rest)) = (negative, chars ++ rest) := by
  cases negative with
  | true => rfl
  | false =>
      have first : (chars ++ rest).head? = chars.head? := List.head?_append_of_ne_nil chars given
      change splitSign (chars ++ rest) = _
      apply splitSign_of_unsigned
      · rw [first]
        exact head?_ne_of_digits digits rfl
      · rw [first]
        exact head?_ne_of_digits digits rfl

theorem readPlain_signed (negative : Bool) {chars : List Char} (digits : AreDigits chars)
    (given : chars ≠ []) (rest : List Char) :
    readPlain (signChars negative ++ (chars ++ rest)) =
      (Reading.start.run (chars ++ rest)).bind fun reading =>
        if reading.digitSeen then .ok (reading.toDecimal negative) else .error .noDigits := by
  have nonempty : (signChars negative ++ (chars ++ rest)).isEmpty = false := by
    simp [given]
  simp [readPlain, nonempty, splitSign_signChars negative digits given rest]

theorem toDecimal_of_holds {reading : Reading} {mantissa scale : Nat} {pointSeen : Bool}
    (holds : reading.Holds mantissa scale pointSeen true) (negative : Bool)
    (fits : mantissa < mantissaBound) (places : scale ≤ maxScale) :
    (if reading.digitSeen then Except.ok (reading.toDecimal negative) else .error .noDigits) =
      Except.ok (ε := LiteralError) (unsignZero ⟨negative, mantissa, scale, fits, places⟩) := by
  obtain ⟨rfl, rfl, _, digitSeen, _⟩ := holds
  simp [digitSeen, Reading.toDecimal]

theorem readPlain_pointed (negative : Bool) {whole fraction : List Char}
    (wholeDigits : AreDigits whole) (fractionDigits : AreDigits fraction) (given : whole ≠ [])
    (fits : ofDigits (whole ++ fraction) < mantissaBound) (places : fraction.length ≤ maxScale) :
    readPlain (signChars negative ++ (whole ++ '.' :: fraction)) =
      .ok (unsignZero ⟨negative, ofDigits (whole ++ fraction), fraction.length, fits, places⟩) := by
  obtain ⟨next, ran, holds⟩ := Reading.run_pointed wholeDigits fractionDigits fits places
  have some : (!whole.isEmpty || !fraction.isEmpty) = true := by simp [given]
  rw [some] at holds
  rw [readPlain_signed negative wholeDigits given, ran]
  exact toDecimal_of_holds holds negative fits places

/-- Digits with a point among them are read as the number of the digits at the scale of the places. -/
theorem read_pointed (negative : Bool) {whole fraction : List Char} (wholeDigits : AreDigits whole)
    (fractionDigits : AreDigits fraction) (given : whole ≠ [])
    (fits : ofDigits (whole ++ fraction) < mantissaBound) (places : fraction.length ≤ maxScale) :
    read (signChars negative ++ (whole ++ '.' :: fraction)) =
      .ok (unsignZero ⟨negative, ofDigits (whole ++ fraction), fraction.length, fits, places⟩) := by
  rw [read, readPlain_pointed negative wholeDigits fractionDigits given fits places]

theorem readPlain_whole (negative : Bool) {whole : List Char} (digits : AreDigits whole)
    (given : whole ≠ []) (fits : ofDigits whole < mantissaBound) :
    readPlain (signChars negative ++ whole) =
      .ok (unsignZero ⟨negative, ofDigits whole, 0, fits, Nat.zero_le _⟩) := by
  obtain ⟨next, ran, holds⟩ := Reading.run_digits Reading.start_holds digits fits (by simp)
  have some : (false || !whole.isEmpty) = true := by simp [given]
  rw [some] at holds
  have signed := readPlain_signed negative digits given []
  rw [List.append_nil] at signed
  rw [signed, ran]
  exact toDecimal_of_holds holds negative fits (Nat.zero_le _)

/-- A decimal reads back from its text; the minus of a zero gets lost. -/
theorem read_toChars (number : Decimal) : read number.toChars = .ok number.unsignZero := by
  obtain ⟨wholeDigits, fractionDigits⟩ := number.areDigits_chars
  have digits := number.ofDigits_chars
  have fits : ofDigits (number.wholeChars ++ number.fractionChars) < mantissaBound := by
    rw [digits]
    exact number.mantissa_lt
  have plain : readPlain number.toChars = .ok number.unsignZero := by
    rw [toChars_eq, List.append_assoc]
    by_cases whole : number.scale = 0
    · have none : number.fractionChars = [] :=
        List.length_eq_zero_iff.mp (number.length_fractionChars.trans whole)
      rw [none, List.append_nil] at digits fits
      rw [if_pos whole, List.append_nil,
        readPlain_whole number.negative wholeDigits number.wholeChars_ne_nil fits]
      congr 2
      obtain ⟨negative, mantissa, scale, _, _⟩ := number
      simp only [mk.injEq, true_and]
      exact ⟨digits, whole.symm⟩
    · have places : number.fractionChars.length ≤ maxScale := by
        rw [length_fractionChars]
        exact number.scale_le
      rw [if_neg whole, readPlain_pointed number.negative wholeDigits fractionDigits
        number.wholeChars_ne_nil fits places]
      congr 2
      have scale := number.length_fractionChars
      obtain ⟨negative, mantissa, scale, _, _⟩ := number
      simp only [mk.injEq, true_and]
      exact ⟨digits, scale⟩
  rw [read, plain]

theorem ofText_toText (number : Decimal) : ofText number.toText = .ok number.unsignZero := by
  rw [ofText, toText, String.toList_ofList, read_toChars]

theorem plain_of_mem {negative : Bool} {whole tail : List Char} (digits : AreDigits whole)
    (pointed : ∀ char ∈ tail, char = '.' ∨ char.isDigit = true) {char : Char}
    (member : char ∈ signChars negative ++ (whole ++ tail)) :
    char = '-' ∨ char = '.' ∨ char.isDigit = true := by
  simp only [List.mem_append] at member
  rcases member with sign | inWhole | inTail
  · cases negative
    · simp [signChars] at sign
    · exact Or.inl (by simpa [signChars] using sign)
  · exact Or.inr (Or.inr (digits char inWhole))
  · exact Or.inr (pointed char inTail)

theorem pointed_of_digits {fraction : List Char} (digits : AreDigits fraction) :
    ∀ char ∈ '.' :: fraction, char = '.' ∨ char.isDigit = true := by
  intro char member
  rcases List.mem_cons.mp member with point | inFraction
  · exact Or.inl point
  · exact Or.inr (digits char inFraction)

theorem isExponentMark_of_digit {char : Char} (digit : char.isDigit = true) :
    isExponentMark char = false := by
  cases mark : isExponentMark char with
  | false => rfl
  | true =>
      have marks : char = 'e' ∨ char = 'E' := by simpa [isExponentMark] using mark
      rcases marks with rfl | rfl <;> simp [Char.isDigit] at digit

/-- A literal with an exponent is what stands in front of the mark, moved by the exponent. -/
theorem read_scientific (negative : Bool) {whole fraction : List Char}
    (wholeDigits : AreDigits whole) (fractionDigits : AreDigits fraction) (given : whole ≠ [])
    (fits : ofDigits (whole ++ fraction) < mantissaBound) (places : fraction.length ≤ maxScale)
    (rest : List Char) :
    let base := unsignZero ⟨negative, ofDigits (whole ++ fraction), fraction.length, fits, places⟩
    read (signChars negative ++ (whole ++ '.' :: fraction) ++ 'e' :: rest) =
      match exponent? rest with
      | none => .error .malformedExponent
      | some (lowers, exponent) =>
          if maxScale < exponent then .error (.exponentTooLarge exponent)
          else if lowers then .ok (base.scaleDown exponent)
          else base.scaleUp exponent := by
  intro base
  have plain := readPlain_pointed negative wholeDigits fractionDigits given fits places
  have notPlain : readPlain (signChars negative ++ (whole ++ '.' :: fraction) ++ 'e' :: rest) =
      .error .unknownCharacter := by
    obtain ⟨next, ran, _⟩ := Reading.run_pointed wholeDigits fractionDigits fits places
    have stopped : (next.run ('e' :: rest)) = .error .unknownCharacter := by
      simp [Reading.run, Reading.step, Char.isDigit, Except.bind]
    rw [List.append_assoc, List.append_assoc, readPlain_signed negative wholeDigits given,
      ← List.append_assoc, Reading.run_append, ran]
    simp only [Except.bind, stopped]
  have noMark : ∀ char ∈ signChars negative ++ (whole ++ '.' :: fraction),
      (!isExponentMark char) = true := by
    intro char member
    have possible := plain_of_mem wholeDigits (pointed_of_digits fractionDigits) member
    rcases possible with rfl | rfl | digit
    · rfl
    · rfl
    · simp [isExponentMark_of_digit digit]
  have marked : (signChars negative ++ (whole ++ '.' :: fraction) ++ 'e' :: rest).any
      isExponentMark = true := by
    simp [isExponentMark]
  have stop : (!isExponentMark 'e') = false := rfl
  obtain ⟨taken, dropped⟩ := takeWhile_append_of_stop noMark stop rest
  rw [read, notPlain]
  simp only [marked, if_true]
  rw [readScientific, taken, dropped, plain]
  rfl

def exponentChars (exponent : Int) : List Char :=
  (if exponent < 0 then '-' else '+') :: paddedDigits 2 exponent.natAbs

theorem natural?_paddedDigits (number : Nat) : natural? (paddedDigits 2 number) = some number := by
  have digits : (paddedDigits 2 number).all Char.isDigit = true :=
    List.all_eq_true.mpr (areDigits_paddedDigits 2 number)
  have given : (paddedDigits 2 number).isEmpty = false := by
    simp [paddedDigits_ne_nil]
  simp [natural?, digits, given]

theorem unsigned?_paddedDigits (number : Nat) : unsigned? (paddedDigits 2 number) = some number := by
  rw [← natural?_paddedDigits number]
  unfold unsigned?
  split
  · rename_i digits same
    have digit : '+'.isDigit = true := areDigits_paddedDigits 2 number '+' (by simp [same])
    simp [Char.isDigit] at digit
  · rfl

theorem exponent?_exponentChars (exponent : Int) :
    exponent? (exponentChars exponent) =
      if exponent.natAbs < powerOfTwo 32 then some (decide (exponent < 0), exponent.natAbs)
      else none := by
  have sized (negative : Bool) : ((some exponent.natAbs).filter (· < powerOfTwo 32)).map
      (negative, ·) =
        if exponent.natAbs < powerOfTwo 32 then some (negative, exponent.natAbs) else none := by
    by_cases small : exponent.natAbs < powerOfTwo 32
    · simp [small]
    · simp only [Option.filter_some, small, decide_false, Bool.false_eq_true, if_false,
        Option.map_none]
  unfold exponentChars
  by_cases lowers : exponent < 0
  · simp only [lowers, if_true, exponent?, unsigned?_paddedDigits, decide_true, sized]
  · simp only [lowers, if_false, exponent?, decide_false]
    rw [← sized false, ← natural?_paddedDigits]
    rfl

theorem fitsDigits_value {count : Nat} {number : Decimal} (below : number.mantissa < 10 ^ count) :
    FitsDigits count number.value := by
  refine ⟨number.signedMantissa, -number.scale, ?_, ?_⟩
  · have size : |number.signedMantissa| = (number.mantissa : Int) := by
      unfold signedMantissa
      split <;> simp
    rw [size]
    exact_mod_cast below
  · rw [value, zpow_neg, zpow_natCast, div_eq_mul_inv]

theorem mantissa_dropFraction_lt {count : Nat} {number : Decimal}
    (below : number.mantissa < 10 ^ (count + 1)) (dropped : Nat) :
    (number.dropFraction dropped).mantissa < 10 ^ (count + 1) := by
  cases dropped with
  | zero => exact below
  | succ rest =>
      have tenth : number.mantissa / powerOfTen (rest + 1) ≤ number.mantissa / 10 := by
        apply Nat.div_le_div_left _ (by decide)
        have := powerOfTen_pos rest
        rw [powerOfTen_succ]
        omega
      have := Nat.pow_pos (n := count) (by decide : 0 < 10)
      rw [Nat.pow_succ] at below ⊢
      simp only [dropFraction]
      split <;> omega

theorem fitsDigits_scaleDown {count : Nat} {number : Decimal}
    (below : number.mantissa < 10 ^ (count + 1)) (exponent : Nat) :
    FitsDigits (count + 1) (number.scaleDown exponent).value :=
  fitsDigits_value (mantissa_dropFraction_lt below _)

theorem value_scaleDown {number : Decimal} {exponent : Nat} (few : exponent ≤ maxScale)
    (zeros : 10 ^ (number.scale + exponent - maxScale) ∣ number.mantissa) :
    (number.scaleDown exponent).value = number.value / 10 ^ exponent := by
  have scaleBound := number.scale_le
  obtain ⟨kept, same⟩ := zeros
  have dropped : (number.dropFraction (number.scale + exponent - maxScale)).mantissa = kept := by
    cases places : number.scale + exponent - maxScale with
    | zero => simpa [dropFraction, places] using same
    | succ count =>
        rw [places] at same
        have shifted : number.mantissa = powerOfTen (count + 1) * kept := same
        have digit : number.mantissa / powerOfTen count % 10 = 0 := by
          rw [shifted, powerOfTen_succ, Nat.mul_assoc, Nat.mul_div_cancel_left _ (powerOfTen_pos count)]
          exact Nat.mul_mod_right 10 kept
        simp only [dropFraction, digit]
        rw [shifted, Nat.mul_div_cancel_left _ (powerOfTen_pos (count + 1))]
        rfl
  have sign : (number.dropFraction (number.scale + exponent - maxScale)).negative =
      number.negative := by
    cases number.scale + exponent - maxScale <;> rfl
  have scale : (number.dropFraction (number.scale + exponent - maxScale)).scale =
      number.scale - (number.scale + exponent - maxScale) := by
    cases number.scale + exponent - maxScale <;> rfl
  have size : (kept : ℚ) /
      10 ^ min (number.scale - (number.scale + exponent - maxScale) + exponent) maxScale =
        (number.mantissa : ℚ) / 10 ^ number.scale / 10 ^ exponent := by
    have places : (10 : ℚ) ^ (number.scale + exponent) = 10 ^ (number.scale + exponent - maxScale) *
        10 ^ min (number.scale - (number.scale + exponent - maxScale) + exponent) maxScale := by
      rw [← pow_add]
      congr 1
      omega
    rw [same, Nat.cast_mul, Nat.cast_pow, Nat.cast_ofNat, div_div, ← pow_add, places,
      mul_div_mul_left _ _ (by positivity)]
  rw [value_eq, value_eq]
  simp only [scaleDown, dropped, sign, scale, size]
  split
  · rw [neg_div]
  · rfl

theorem value_scaleUp {number raised : Decimal} {exponent : Nat}
    (fits : number.scaleUp exponent = .ok raised) :
    raised.value = number.value * 10 ^ exponent := by
  unfold scaleUp at fits
  split at fits
  · rename_i within
    cases fits
    have places : (10 : ℚ) ^ number.scale =
        10 ^ (number.scale - exponent) * 10 ^ exponent := by
      rw [← pow_add, Nat.sub_add_cancel within]
    have nonzero : (10 : ℚ) ^ exponent ≠ 0 := by positivity
    simp only [value, signedMantissa, places]
    field_simp
  · rename_i beyond
    split at fits
    · cases fits
      have places : (10 : ℚ) ^ exponent =
          10 ^ (exponent - number.scale) * 10 ^ number.scale := by
        rw [← pow_add, Nat.sub_add_cancel (by omega)]
      have nonzero : (10 : ℚ) ^ number.scale ≠ 0 := by positivity
      rw [value_eq, value_eq, Nat.cast_mul, cast_powerOfTen, places, pow_zero, div_one]
      simp only
      split <;> field_simp
    · simp at fits

theorem exists_scaleUp {number : Decimal} {exponent : Nat}
    (small : |number.value| * 10 ^ exponent < 2 ^ 96) :
    ∃ raised, number.scaleUp exponent = .ok raised := by
  unfold scaleUp
  split
  · exact ⟨_, rfl⟩
  · rename_i beyond
    have fits : number.mantissa * powerOfTen (exponent - number.scale) < mantissaBound := by
      have places : (10 : ℚ) ^ exponent =
          10 ^ (exponent - number.scale) * 10 ^ number.scale := by
        rw [← pow_add, Nat.sub_add_cancel (by omega)]
      have cast : (number.mantissa * powerOfTen (exponent - number.scale) : ℚ) < 2 ^ 96 := by
        rw [abs_value, places] at small
        have nonzero : (10 : ℚ) ^ number.scale ≠ 0 := by positivity
        rw [cast_powerOfTen]
        calc (number.mantissa : ℚ) * 10 ^ (exponent - number.scale)
            = number.mantissa / 10 ^ number.scale *
                (10 ^ (exponent - number.scale) * 10 ^ number.scale) := by field_simp
          _ < 2 ^ 96 := small
      rw [← cast_powerOfTwo] at cast
      exact_mod_cast cast
    rw [dif_pos fits]
    exact ⟨_, rfl⟩

def movedBy (number : Decimal) (exponent : Int) : Except LiteralError Decimal :=
  if exponent < 0 then .ok (number.scaleDown exponent.natAbs)
  else number.scaleUp exponent.natAbs

theorem fitsDigits_movedBy {count : Nat} {number moved : Decimal} {exponent : Int}
    (below : number.mantissa < 10 ^ (count + 1)) (same : number.movedBy exponent = .ok moved) :
    FitsDigits (count + 1) moved.value := by
  unfold movedBy at same
  split at same
  · cases same
    exact fitsDigits_scaleDown below _
  · rw [value_scaleUp same]
    exact fitsDigits_mul_pow (fitsDigits_value below) exponent.natAbs

theorem dvd_mantissa_of_value_eq {number amount : Decimal} {exponent : Nat}
    (same : amount.value = number.value / 10 ^ exponent) :
    10 ^ (number.scale + exponent - maxScale) ∣ number.mantissa := by
  have scaleBound := amount.scale_le
  rcases le_total (number.scale + exponent) maxScale with few | many
  · rw [Nat.sub_eq_zero_of_le few, Nat.pow_zero]
    exact one_dvd _
  · have size : (amount.mantissa : ℚ) / 10 ^ amount.scale =
        number.mantissa / 10 ^ (number.scale + exponent) := by
      rw [← abs_value, same, abs_div, abs_value, div_div,
        abs_of_pos (by positivity : (0 : ℚ) < 10 ^ exponent), ← pow_add]
    rw [div_eq_div_iff (by positivity) (by positivity)] at size
    have cross : amount.mantissa * 10 ^ (number.scale + exponent) =
        number.mantissa * 10 ^ amount.scale := by exact_mod_cast size
    rw [← Nat.sub_add_cancel (scaleBound.trans many), Nat.pow_add, ← Nat.mul_assoc] at cross
    rw [← Nat.mul_right_cancel (Nat.pow_pos (by decide)) cross]
    exact Dvd.dvd.mul_left (Nat.pow_dvd_pow 10 (by omega)) _

/-- A number is moved to any value within reach that a decimal has. -/
theorem exists_movedBy {number amount : Decimal} {exponent : Int}
    (within : exponent.natAbs ≤ maxScale) (same : amount.value = number.value * 10 ^ exponent) :
    ∃ moved, number.movedBy exponent = .ok moved ∧ moved.value = amount.value := by
  unfold movedBy
  split
  · rename_i lowers
    have power : number.value * 10 ^ exponent = number.value / 10 ^ exponent.natAbs := by
      rw [div_eq_mul_inv, ← zpow_natCast, ← zpow_neg]
      congr 2
      omega
    refine ⟨_, rfl, ?_⟩
    rw [value_scaleDown within (dvd_mantissa_of_value_eq (same.trans power)), same, power]
  · rename_i raises
    have power : (10 : ℚ) ^ exponent = 10 ^ exponent.natAbs := by
      rw [← zpow_natCast]
      congr 1
      omega
    rw [power] at same
    have small : |number.value| * 10 ^ exponent.natAbs < 2 ^ 96 := by
      have bounded := amount.abs_value_lt
      rwa [same, abs_mul, abs_of_pos (by positivity : (0 : ℚ) < 10 ^ exponent.natAbs)] at bounded
    obtain ⟨raised, fits⟩ := exists_scaleUp small
    exact ⟨raised, fits, by rw [value_scaleUp fits, same]⟩

theorem read_exponentChars_eq_ok (negative : Bool) {whole fraction : List Char}
    (wholeDigits : AreDigits whole) (fractionDigits : AreDigits fraction) (given : whole ≠ [])
    (fits : ofDigits (whole ++ fraction) < mantissaBound) (places : fraction.length ≤ maxScale)
    (exponent : Int) (moved : Decimal) :
    read (signChars negative ++ (whole ++ '.' :: fraction) ++ 'e' :: exponentChars exponent) =
        .ok moved ↔
      exponent.natAbs ≤ maxScale ∧
        movedBy (unsignZero
          ⟨negative, ofDigits (whole ++ fraction), fraction.length, fits, places⟩) exponent =
            .ok moved := by
  rw [read_scientific negative wholeDigits fractionDigits given fits places, exponent?_exponentChars]
  by_cases within : exponent.natAbs ≤ maxScale
  · have small : exponent.natAbs < powerOfTwo 32 := lt_of_le_of_lt within (by decide)
    simp [small, within, not_lt.mpr within, movedBy]
  · have beyond : maxScale < exponent.natAbs := not_le.mp within
    by_cases small : exponent.natAbs < powerOfTwo 32
    · simp [small, beyond]
    · simp [small, beyond]

end Underwriting.Decimal
