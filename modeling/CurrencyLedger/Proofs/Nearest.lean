import CurrencyLedger.Proofs.Ranges
import Mathlib.Algebra.Order.Round
import Mathlib.Data.Int.Log
import Mathlib.Data.Rat.Floor

/-!
What arithmetic keeps of a number.

Whatever is computed, and however its operands are written, a result of arithmetic depends on the
exact number alone: its digits down to the last place that is kept, rounded to the nearest, of two
equally near to the even one. That place rises with the size of the number, but a number never
passes the power of ten at which it rises, so a greater number is never rounded to a smaller one. A
number that stands at the places that are kept is kept as it is, and every number is kept but for a
roundoff and half a unit of the least place. Placing a number half-up is the nearest whole number of
units too, with the half going up.
-/

namespace CurrencyLedger.Decimal

/-! ### The nearest whole number -/

/-- The nearest whole number, of two equally near the even one. -/
def nearestEven (x : ℚ) : ℤ :=
  if 2 * Int.fract x < 1 ∨ 2 * Int.fract x = 1 ∧ Even ⌊x⌋ then ⌊x⌋ else ⌊x⌋ + 1

theorem floor_le_nearestEven (x : ℚ) : ⌊x⌋ ≤ nearestEven x := by
  rw [nearestEven]
  split_ifs <;> omega

theorem nearestEven_le_floor_add_one (x : ℚ) : nearestEven x ≤ ⌊x⌋ + 1 := by
  rw [nearestEven]
  split_ifs <;> omega

theorem nearestEven_intCast (k : ℤ) : nearestEven k = k := by
  simp [nearestEven]

theorem nearestEven_mono {x y : ℚ} (h : x ≤ y) : nearestEven x ≤ nearestEven y := by
  rcases (Int.floor_le_floor h).lt_or_eq with hlt | heq
  · exact (nearestEven_le_floor_add_one x).trans ((Int.add_one_le_iff.2 hlt).trans
      (floor_le_nearestEven y))
  · -- Between the same whole numbers the greater number has the greater fraction.
    have hfract : Int.fract x ≤ Int.fract y := by
      rw [Int.fract, Int.fract, heq]
      linarith
    rw [nearestEven, nearestEven, heq]
    split_ifs with hx hy hy
    · exact le_rfl
    · omega
    · refine absurd ?_ hx
      rcases hy with hy | ⟨hy, heven⟩
      · exact .inl (by linarith)
      · rcases hfract.lt_or_eq with hlt | hsame
        · exact .inl (by linarith)
        · exact .inr ⟨by linarith, heven⟩
    · exact le_rfl

theorem abs_nearestEven_sub_le (x : ℚ) : |(nearestEven x : ℚ) - x| ≤ 1 / 2 := by
  have hx := Int.floor_add_fract x
  rw [nearestEven, abs_le]
  split_ifs with h
  · have hbefore : 2 * Int.fract x ≤ 1 := h.elim le_of_lt fun h => h.1.le
    have := Int.fract_nonneg x
    constructor <;> linarith
  · have hbeyond : 1 ≤ 2 * Int.fract x := not_lt.1 fun hlt => h (.inl hlt)
    have := Int.fract_lt_one x
    push_cast
    constructor <;> linarith

section

variable {n d : Nat}

theorem floor_quotient (n d : Nat) : ⌊(n : ℚ) / d⌋ = (n / d : Nat) :=
  Rat.floor_natCast_div_natCast n d

/-- A quotient of natural numbers is rounded to even as the number that it is. -/
theorem divRound_halfEven (n : Nat) (hd : 0 < d) :
    (divRound .halfEven false n d : ℤ) = nearestEven (n / d) := by
  have hd' : (0 : ℚ) < d := by exact_mod_cast hd
  have hlt : 2 * ((n % d : Nat) : ℚ) / d < 1 ↔ 2 * (n % d) < d := by
    rw [div_lt_one hd']
    exact_mod_cast Iff.rfl
  have heq : 2 * ((n % d : Nat) : ℚ) / d = 1 ↔ 2 * (n % d) = d := by
    rw [div_eq_one_iff_eq hd'.ne']
    exact_mod_cast Iff.rfl
  rw [nearestEven, floor_quotient, Int.fract_div_natCast_eq_div_natCast_mod, ← mul_div_assoc]
  simp only [hlt, heq, Int.even_coe_nat, Nat.even_iff, divRound, Rounding.goesUp, Bool.or_eq_true,
    Bool.and_eq_true, decide_eq_true_eq, beq_iff_eq]
  split_ifs <;> omega

/-- So it is half-up. -/
theorem divRound_halfUp (n : Nat) (hd : 0 < d) :
    (divRound .halfUp false n d : ℤ) = round ((n : ℚ) / d) := by
  have hd' : (0 : ℚ) < d := by exact_mod_cast hd
  have hlt : 2 * (((n % d : Nat) : ℚ) / d) < 1 ↔ 2 * (n % d) < d := by
    rw [← mul_div_assoc, div_lt_one hd']
    exact_mod_cast Iff.rfl
  have hceil : ¬ 2 * (n % d) < d → ⌈(n : ℚ) / d⌉ = ((n / d : Nat) : ℤ) + 1 := by
    intro h
    have hrest : (0 : ℚ) < (n % d : Nat) / d := by
      have : 0 < n % d := by omega
      positivity
    obtain ⟨-, hone⟩ := fraction_bounds n hd
    rw [Int.ceil_eq_iff, div_eq_quotient_add n hd, Int.cast_add, Int.cast_natCast, Int.cast_one]
    constructor <;> linarith
  rw [round, Int.fract_div_natCast_eq_div_natCast_mod, floor_quotient]
  simp only [hlt, divRound, Rounding.goesUp, Bool.and_eq_true, decide_eq_true_eq]
  split_ifs with hup hdown hdown
  · omega
  · rw [hceil hdown, Nat.cast_add, Nat.cast_one]
  · rfl
  · omega

end

/-! ### The digits that are kept -/

/-- The power of ten of the last digit that arithmetic keeps of a number. -/
def keptPlace (x : ℚ) : ℤ := max (Int.log 10 x - (precision - 1)) tinyExponent

/-- What arithmetic keeps of a number. -/
def rounded (x : ℚ) : ℚ := nearestEven (x / 10 ^ keptPlace x) * 10 ^ keptPlace x

section

variable {x y : ℚ} {k : ℤ}

theorem zpow_log_le (hx : 0 < x) : (10 : ℚ) ^ Int.log 10 x ≤ x := by
  simpa using Int.zpow_log_le_self (b := 10) (by norm_num) hx

theorem log_lt_iff (hx : 0 < x) : Int.log 10 x < k ↔ x < 10 ^ k := by
  simpa using (Int.lt_zpow_iff_log_lt (b := 10) (by norm_num) hx).symm

theorem tinyExponent_le_keptPlace (x : ℚ) : tinyExponent ≤ keptPlace x := le_max_right ..

theorem log_le_keptPlace (x : ℚ) : Int.log 10 x - (precision - 1) ≤ keptPlace x := le_max_left ..

theorem keptPlace_mono (hx : 0 < x) (h : x ≤ y) : keptPlace x ≤ keptPlace y :=
  max_le_max_right _ (Int.sub_le_sub_right (Int.log_mono_right hx h) _)

/-- A number of few digits at a place is kept down to there. -/
theorem keptPlace_le (hx : 0 < x) (hk : tinyExponent ≤ k) (h : x < 10 ^ (k + precision)) :
    keptPlace x ≤ k := by
  have := (log_lt_iff hx).2 h
  exact max_le (by omega) hk

theorem rounded_zero : rounded 0 = 0 := by
  rw [rounded, zero_div, show (0 : ℚ) = ((0 : ℤ) : ℚ) from rfl, nearestEven_intCast]
  simp

/-- At a place that is kept every multiple of a unit is a whole number of the last units. -/
theorem exists_units (hk : keptPlace x ≤ k) (m : ℕ) :
    ∃ i : ℤ, (m : ℚ) * 10 ^ k = i * 10 ^ keptPlace x := by
  refine ⟨(m * tenTo (k - keptPlace x).toNat : ℕ), ?_⟩
  rw [Int.cast_natCast, Nat.cast_mul, tenTo_toNat (by omega), mul_assoc,
    ← zpow_add₀ (by norm_num), Int.sub_add_cancel]

/-- Rounding does not pass a number at the places that are kept. -/
theorem le_rounded (hk : keptPlace x ≤ k) {m : ℕ} (h : m * 10 ^ k ≤ x) :
    m * 10 ^ k ≤ rounded x := by
  have hunit : (0 : ℚ) < 10 ^ keptPlace x := by positivity
  obtain ⟨i, hi⟩ := exists_units hk m
  rw [hi] at h ⊢
  have hle := nearestEven_mono ((le_div_iff₀ hunit).2 h)
  rw [nearestEven_intCast] at hle
  rw [rounded]
  gcongr

theorem rounded_le (hk : keptPlace x ≤ k) {m : ℕ} (h : x ≤ m * 10 ^ k) :
    rounded x ≤ m * 10 ^ k := by
  have hunit : (0 : ℚ) < 10 ^ keptPlace x := by positivity
  obtain ⟨i, hi⟩ := exists_units hk m
  rw [hi] at h ⊢
  have hle := nearestEven_mono ((div_le_iff₀ hunit).2 h)
  rw [nearestEven_intCast] at hle
  rw [rounded]
  gcongr

/-- A number at the places that are kept is kept. -/
theorem rounded_eq_self (hk : keptPlace x ≤ k) {m : ℕ} (h : x = m * 10 ^ k) : rounded x = x := by
  refine le_antisymm ?_ ?_
  · exact (rounded_le hk h.le).trans h.ge
  · exact h.le.trans (le_rounded hk h.ge)

theorem rounded_nonneg (hx : 0 ≤ x) : 0 ≤ rounded x := by
  have := le_rounded (x := x) (m := 0) le_rfl (by simpa using hx)
  simpa using this

/-- A number of no more digits than the precision is kept. -/
theorem rounded_of_digits {m : ℕ} (hm : m < tenTo precision) (hk : tinyExponent ≤ k) :
    rounded (m * 10 ^ k) = m * 10 ^ k := by
  rcases Nat.eq_zero_or_pos m with rfl | hpos
  · rw [Nat.cast_zero, zero_mul, rounded_zero]
  · refine rounded_eq_self (keptPlace_le (by positivity) hk ?_) rfl
    rw [zpow_add₀ (by norm_num), mul_comm, zpow_natCast]
    have hm' : (m : ℚ) < 10 ^ precision := by
      rw [← tenTo_cast]
      exact_mod_cast hm
    gcongr

theorem rounded_natCast {m : ℕ} (hm : m < tenTo precision) : rounded m = m := by
  simpa using rounded_of_digits (k := 0) hm (by decide)

theorem rounded_ten_zpow (hk : tinyExponent ≤ k) : rounded (10 ^ k) = 10 ^ k := by
  simpa using rounded_of_digits (m := 1) (by decide) hk

/-- A greater number is not rounded to a smaller one. -/
theorem rounded_mono (hx : 0 ≤ x) (h : x ≤ y) : rounded x ≤ rounded y := by
  rcases hx.eq_or_lt with rfl | hx
  · rw [rounded_zero]
    exact rounded_nonneg h
  have hy := hx.trans_le h
  rcases (keptPlace_mono hx h).eq_or_lt with hsame | hrise
  · rw [rounded, rounded, hsame]
    have := nearestEven_mono (div_le_div_of_nonneg_right h
      (by positivity : (0 : ℚ) ≤ 10 ^ keptPlace y))
    gcongr
  · -- Where the place rises stands a power of ten between the two numbers.
    have htiny := tinyExponent_le_keptPlace x
    have hlow := log_le_keptPlace x
    have hplace : keptPlace y = Int.log 10 y - (precision - 1) := by
      rcases max_choice (Int.log 10 y - (precision - 1)) tinyExponent with hlast | hlast
      · exact hlast
      · rw [← keptPlace] at hlast
        omega
    have hlog : Int.log 10 x < Int.log 10 y := by omega
    rw [precision] at hplace
    have hbelow := rounded_le (x := x) (k := Int.log 10 y) (m := 1) (by omega)
      (by simpa using ((log_lt_iff hx).1 hlog).le)
    have habove := le_rounded (x := y) (k := Int.log 10 y) (m := 1) (by omega)
      (by simpa using zpow_log_le hy)
    exact hbelow.trans habove

/-- Half a unit of the least place. -/
def dust : ℚ := 1 / 2 * 10 ^ tinyExponent

theorem dust_pos : 0 < dust := by
  rw [dust]
  positivity

theorem dust_le : dust ≤ 1 / 10 ^ 60 := by
  have : (10 : ℚ) ^ tinyExponent ≤ 10 ^ (-60 : ℤ) :=
    zpow_le_zpow_right₀ (by norm_num) (by decide)
  rw [dust]
  norm_num at this ⊢
  linarith

theorem abs_rounded_sub_le_half (x : ℚ) : |rounded x - x| ≤ 1 / 2 * 10 ^ keptPlace x := by
  have hunit : (0 : ℚ) < 10 ^ keptPlace x := by positivity
  have hround := abs_scaled_sub_le (abs_nearestEven_sub_le (x / 10 ^ keptPlace x)) (keptPlace x)
  rwa [← rounded, div_mul_cancel₀ _ hunit.ne'] at hround

/-- A number is kept but for a roundoff, unless its last digits stand below the least place. -/
theorem near_rounded_of_le (hx : 10 ^ minExponent ≤ x) : Near (rounded x) x := by
  have hpos : 0 < x := lt_of_lt_of_le (by positivity) hx
  have hlog : minExponent ≤ Int.log 10 x := by
    by_contra hlt
    exact not_lt.2 hx ((log_lt_iff hpos).1 (not_le.1 hlt))
  have hplace : keptPlace x = Int.log 10 x - (precision - 1) := by
    rw [keptPlace, max_eq_left]
    rw [tinyExponent]
    omega
  refine (abs_rounded_sub_le_half x).trans ?_
  rw [hplace]
  exact half_unit_le (zpow_log_le hpos)

theorem near_rounded (hx : Normal x) : Near (rounded x) x :=
  near_rounded_of_le ((zpow_le_zpow_right₀ (by norm_num) (by decide)).trans hx)

/-- Every number is kept but for a roundoff and half a unit of the least place. -/
theorem abs_rounded_sub_le (hx : 0 ≤ x) : |rounded x - x| ≤ roundoff * x + dust := by
  have hdust := dust_pos
  rcases hx.eq_or_lt with rfl | hx
  · simp [rounded_zero, hdust.le]
  have hhalf := half_unit_le (zpow_log_le hx)
  have hroundoff : 0 ≤ roundoff * x := mul_nonneg roundoff_pos.le hx.le
  refine (abs_rounded_sub_le_half x).trans ?_
  rcases max_choice (Int.log 10 x - (precision - 1)) tinyExponent with hlast | hlast
  · rw [keptPlace, hlast]
    linarith
  · rw [keptPlace, hlast, ← dust]
    linarith

end

/-! ### Results of arithmetic -/

/-- A result that the exponents reach. -/
def Fits (x : ℚ) : Prop := rounded x < 10 ^ (maxExponent + 1)

theorem Fits.mono {x y : ℚ} (hy : Fits y) (hx : 0 ≤ x) (h : x ≤ y) : Fits x :=
  (rounded_mono hx h).trans_lt hy

/-- Numbers that occur are far smaller than what the exponents reach. -/
theorem fits_of_le {x : ℚ} (hx : 0 ≤ x) (h : x ≤ 10 ^ 40) : Fits x := by
  have hten : rounded (10 ^ 40) = 10 ^ 40 := rounded_ten_zpow (k := 40) (by decide)
  have hfar : (10 : ℚ) ^ (41 : ℤ) ≤ 10 ^ (maxExponent + 1) :=
    zpow_le_zpow_right₀ (by norm_num) (by decide)
  rw [Fits]
  refine (rounded_mono hx h).trans_lt (lt_of_lt_of_le ?_ hfar)
  rw [hten]
  norm_num

/-- How an operation ends whose exact result is `x`. -/
inductive Rounds (x : ℚ) : Except Signal Decimal → Prop
  | kept {c : Nat} {e : Int} (hvalue : value (.finite false c e) = rounded x) (hfits : Fits x) :
      Rounds x (.ok (.finite false c e))
  | refused (h : ¬ Fits x) : Rounds x (.error .overflow)

theorem Rounds.of_fits {x : ℚ} {result : Except Signal Decimal} (h : Rounds x result)
    (hx : Fits x) :
    ∃ c e, result = .ok (.finite false c e) ∧ value (.finite false c e) = rounded x := by
  cases h with
  | kept hvalue => exact ⟨_, _, rfl, hvalue⟩
  | refused hbeyond => exact absurd hx hbeyond

theorem Rounds.of_ok {x : ℚ} {d : Decimal} (h : Rounds x (.ok d)) :
    Fits x ∧ ∃ c e, d = .finite false c e ∧ value (.finite false c e) = rounded x := by
  cases h with
  | kept hvalue hfits => exact ⟨hfits, _, _, rfl, hvalue⟩

section

variable {n d : Nat} {ideal : Int}

/-- The places of a quotient are those of the number that it is. -/
theorem lastPlace_eq_keptPlace (hn : 0 < n) (hd : 0 < d) :
    lastPlace n d ideal = keptPlace (n / d * 10 ^ ideal) := by
  have hx : (0 : ℚ) < n / d * 10 ^ ideal := by positivity
  have hlow := @ten_zpow_firstPlace_le n d ideal hn hd
  have hbelow := (log_lt_iff hx).2 (@lt_ten_zpow_firstPlace n d ideal hn hd)
  have habove : ¬ Int.log 10 ((n : ℚ) / d * 10 ^ ideal) < firstPlace n d ideal :=
    fun hlt => not_lt.2 hlow ((log_lt_iff hx).1 hlt)
  rw [lastPlace, keptPlace, show firstPlace n d ideal = Int.log 10 ((n : ℚ) / d * 10 ^ ideal) by
    omega]

/-- A coefficient is settled as what is kept of the exact number. -/
theorem settled_rounded (hn : 0 < n) (hd : 0 < d) :
    ∃ (c : Nat) (e : Int), ofQuotient false n d ideal = settle false c e ∧
      (c : ℚ) * 10 ^ e = rounded (n / d * 10 ^ ideal) := by
  obtain ⟨c, e, hsettle, hplace, hexact | ⟨rfl, m, k, hk, rfl, hshift⟩⟩ :=
    @placed_of_ofQuotient n d ideal hn hd
  · refine ⟨c, e, hsettle, ?_⟩
    rw [lastPlace_eq_keptPlace hn hd] at hplace
    rw [rounded_eq_self hplace hexact.symm, hexact]
  · refine ⟨_, _, hsettle, ?_⟩
    rw [lastPlace_eq_keptPlace hn hd] at hshift ⊢
    have hunit : (0 : ℚ) < 10 ^ keptPlace (n / d * 10 ^ ideal) := by positivity
    rw [rounded, ← (eq_div_iff hunit.ne').2 hshift, ← divRound_halfEven m hk, Int.cast_natCast]

/-- Arithmetic keeps of the exact number what can be kept. -/
theorem rounds_ofQuotient (n : Nat) (hd : 0 < d) (ideal : Int) :
    Rounds (n / d * 10 ^ ideal) (ofQuotient false n d ideal) := by
  rcases Nat.eq_zero_or_pos n with rfl | hn
  · rw [ofQuotient_zero, Nat.cast_zero, zero_div, zero_mul]
    refine .kept ?_ (fits_of_le le_rfl (by norm_num))
    rw [value_finite, Nat.cast_zero, zero_mul, rounded_zero]
  obtain ⟨c, e, hsettle, hvalue⟩ := @settled_rounded n d ideal hn hd
  cases h : ofQuotient false n d ideal with
  | ok r =>
    obtain ⟨c', e', rfl⟩ := ofQuotient_eq_ok h
    have hr : value (.finite false c' e') = rounded (n / d * 10 ^ ideal) := by
      rw [value_of_settle (hsettle.symm.trans h), hvalue]
    refine .kept hr ?_
    rw [Fits, ← hr]
    exact value_lt_of_ofQuotient hn hd h
  | error s =>
    obtain ⟨rfl, hbeyond⟩ := overflow_of_ofQuotient hn hd h
    refine .refused fun hfits => ?_
    obtain ⟨-, ⟨rfl, -⟩ | hlarge⟩ := settle_eq_error (hsettle.symm.trans h)
    · -- A number that is so large does not vanish.
      have hpos : (0 : ℚ) < 10 ^ maxExponent := by positivity
      have := rounded_mono hpos.le hbeyond
      rw [rounded_ten_zpow (by decide)] at this
      rw [Nat.cast_zero, zero_mul] at hvalue
      linarith
    · rw [hvalue] at hlarge
      exact not_lt.2 hlarge hfits

theorem value_of_ofQuotient (hd : 0 < d) {r : Decimal} (h : ofQuotient false n d ideal = .ok r) :
    r.value = rounded (n / d * 10 ^ ideal) := by
  obtain ⟨-, c, e, rfl, hvalue⟩ := (h ▸ rounds_ofQuotient n hd ideal).of_ok
  exact hvalue

end

section

variable (c c' : Nat) (e e' : Int)

theorem rounds_mul : Rounds (value (.finite false c e) * value (.finite false c' e'))
    (mul (.finite false c e) (.finite false c' e')) := by
  rw [value_mul_value, mul_finite]
  exact rounds_ofQuotient (c * c') Nat.one_pos (e + e')

theorem rounds_div {c' : Nat} (hc : 0 < c') :
    Rounds (value (.finite false c e) / value (.finite false c' e'))
      (div (.finite false c e) (.finite false c' e')) := by
  rw [value_div_value, div_finite c hc]
  exact rounds_ofQuotient c hc (e - e')

end

/-! ### Numbers placed half-up -/

theorem round_mono {x y : ℚ} (h : x ≤ y) : round x ≤ round y := by
  rw [round_eq, round_eq]
  gcongr

/-- A coefficient loses digits half-up. -/
theorem dropDigits_halfUp (c k : Nat) :
    (dropDigits .halfUp false c k : ℤ) = round ((c : ℚ) / 10 ^ k) := by
  have hround := divRound_halfUp c (tenTo_pos (min k (digitCount c + 1)))
  rw [← dropDigits] at hround
  rcases dropped_cases c k with hj | ⟨hj, hsmall⟩
  · rw [hround, hj, tenTo_cast]
  · -- So little is left that the nearest whole number is zero, however many digits are dropped.
    have hzero {q : ℚ} (hnonneg : 0 ≤ q) (hq : q ≤ 1 / 10) : round q = 0 := by
      rw [round_eq_zero_iff]
      constructor <;> linarith
    rw [hround, hzero (by positivity) hsmall,
      hzero (by positivity) ((div_ten_pow_le c hj).trans hsmall)]

/-- Zeros behind a number are digits of it. -/
theorem digitCount_add_le_iff {c : Nat} (hc : 0 < c) (k n : Nat) :
    digitCount c + k ≤ n ↔ c * tenTo k < tenTo n := by
  obtain ⟨j, hj, hlow, hhigh⟩ := digitCount_bounds hc
  have hcast : c * tenTo k < tenTo n ↔ (c : ℚ) * 10 ^ k < 10 ^ n := by
    rw [← tenTo_cast, ← tenTo_cast]
    exact_mod_cast Iff.rfl
  rw [hj, hcast]
  constructor
  · intro h
    calc (c : ℚ) * 10 ^ k < 10 ^ (j + 1) * 10 ^ k := by gcongr
      _ = 10 ^ (j + 1 + k) := (pow_add ..).symm
      _ ≤ 10 ^ n := pow_le_pow_right₀ (by norm_num) h
  · intro h
    by_contra hlong
    refine absurd h (not_lt.2 ?_)
    calc (10 : ℚ) ^ n ≤ 10 ^ (j + k) := pow_le_pow_right₀ (by norm_num) (by omega)
      _ = 10 ^ j * 10 ^ k := pow_add ..
      _ ≤ c * 10 ^ k := by gcongr

/-- Placed half-up, a number is the nearest whole number of units, the half going up. -/
theorem quantize_halfUp {place : Int} (hlow : tinyExponent ≤ place) (hhigh : place ≤ maxExponent)
    (c : Nat) (e : Int) :
    ∃ q : Nat, (q : ℤ) = round (value (.finite false c e) / 10 ^ place) ∧
      quantize .halfUp place (.finite false c e) =
        if q < tenTo precision then .ok (.finite false q place) else .error .invalidOperation := by
  have hshift : value (.finite false c e) / 10 ^ place = c * 10 ^ (e - place) := by
    rw [value_finite, mul_div_assoc, zpow_sub₀ (by norm_num)]
  rw [hshift]
  rcases Nat.eq_zero_or_pos c with rfl | hc
  · refine ⟨0, by simp, ?_⟩
    rw [if_pos (tenTo_pos _), quantize, if_pos rfl, zeroAt, min_eq_left hhigh, max_eq_right hlow]
  simp only [quantize, if_neg hc.ne']
  by_cases hplace : place ≤ e
  · refine ⟨c * tenTo (e - place).toNat, ?_, ?_⟩
    · rw [← round_natCast (α := ℚ), Nat.cast_mul, tenTo_toNat (by omega)]
    · simp only [if_pos hplace, ← digitCount_add_le_iff hc, ← not_le, ite_not]
  · refine ⟨dropDigits .halfUp false c (place - e).toNat, ?_, ?_⟩
    · rw [dropDigits_halfUp, ← zpow_natCast, Int.toNat_of_nonneg (by omega), div_eq_mul_inv,
        ← zpow_neg, Int.neg_sub]
    · have hdigits := digitCount_le_iff (k := 27) (dropDigits .halfUp false c (place - e).toNat)
      simp only [if_neg hplace, precision, ← hdigits, ← not_le, ite_not]

end CurrencyLedger.Decimal
