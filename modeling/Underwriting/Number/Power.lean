/-!
Powers of two and of ten among the natural numbers. They bound fixed-width numbers and align the
digits of numbers with different scales.
-/

namespace Underwriting

def powerOfTwo (exponent : Nat) : Nat := Nat.pow 2 exponent

def powerOfTen (exponent : Nat) : Nat := Nat.pow 10 exponent

theorem powerOfTen_pos (exponent : Nat) : 0 < powerOfTen exponent := Nat.pow_pos (by decide)

theorem powerOfTen_succ (exponent : Nat) : powerOfTen (exponent + 1) = powerOfTen exponent * 10 :=
  rfl

theorem powerOfTwo_pos (exponent : Nat) : 0 < powerOfTwo exponent := Nat.pow_pos (by decide)

end Underwriting
