/-!
Powers of ten and of two.

Decimals and doubles are coefficients times a power of a fixed base. The powers with natural
exponents are all that is needed: a negative exponent becomes a power in the denominator.
-/

namespace CurrencyLedger

/-- Ten to a power. -/
def tenTo (k : Nat) : Nat := Nat.pow 10 k

/-- Two to a power. -/
def twoTo (k : Nat) : Nat := Nat.pow 2 k

theorem tenTo_zero : tenTo 0 = 1 := rfl

theorem tenTo_succ (k : Nat) : tenTo (k + 1) = tenTo k * 10 := rfl

theorem tenTo_pos (k : Nat) : 0 < tenTo k := Nat.pow_pos (by decide)

theorem twoTo_pos (k : Nat) : 0 < twoTo k := Nat.pow_pos (by decide)

end CurrencyLedger
