import Mathlib.Data.Int.Log
import Mathlib.Data.Rat.Floor
import Mathlib.Algebra.Order.Field.Power
import Mathlib.Tactic.FieldSimp
import Mathlib.Tactic.Linarith

namespace EWallet

/-- The weight of the last binary digit kept of a number, when 53 are kept and none below
`2 ^ -1074`. -/
def lastPlace (x : ℚ) : ℤ := max (Int.log 2 |x| - 52) (-1074)

def halfEven (x : ℚ) : ℕ :=
  if x - ⌊x⌋₊ < 1 / 2 ∨ x - ⌊x⌋₊ = 1 / 2 ∧ Even ⌊x⌋₊ then ⌊x⌋₊ else ⌊x⌋₊ + 1

def nearest (x : ℚ) : ℚ :=
  if x < 0 then -(halfEven (|x| / 2 ^ lastPlace x) * 2 ^ lastPlace x)
  else halfEven (|x| / 2 ^ lastPlace x) * 2 ^ lastPlace x

theorem nearest_of_neg (x : ℚ) (low : x < 0) :
    nearest x = -(halfEven (|x| / 2 ^ lastPlace x) * 2 ^ lastPlace x) :=
  if_pos low

theorem nearest_of_nonneg (x : ℚ) (nonneg : 0 ≤ x) :
    nearest x = halfEven (|x| / 2 ^ lastPlace x) * 2 ^ lastPlace x :=
  if_neg (not_lt.mpr nonneg)

@[simp] theorem nearest_zero : nearest 0 = 0 := by decide +kernel

theorem nearest_neg (x : ℚ) : nearest (-x) = -nearest x := by
  simp only [nearest, lastPlace, abs_neg, Left.neg_neg_iff]
  rcases lt_trichotomy x 0 with low | rfl | high
  · rw [if_neg (not_lt.mpr low.le), if_pos low, neg_neg]
  · decide +kernel
  · rw [if_pos high, if_neg (not_lt.mpr high.le)]

theorem halfEven_natCast (n : ℕ) : halfEven (n : ℚ) = n := by
  simp [halfEven]

theorem halfEven_le (x : ℚ) (n : ℕ) (below : x < n) : halfEven x ≤ n := by
  have floor : ⌊x⌋₊ < n ∨ x < 0 := by
    by_cases nonneg : 0 ≤ x
    · exact Or.inl ((Nat.floor_lt nonneg).mpr below)
    · exact Or.inr (not_le.mp nonneg)
  unfold halfEven
  rcases floor with less | negative
  · split
    · exact less.le
    · exact less
  · rw [Nat.floor_of_nonpos negative.le, if_pos (Or.inl (by push_cast; linarith))]
    exact Nat.zero_le n

theorem nearest_whole (x : ℚ) (n : ℕ) (whole : x = n * 2 ^ lastPlace x) : nearest x = x := by
  have unit : (0 : ℚ) < 2 ^ lastPlace x := by positivity
  have nonneg : 0 ≤ x := by
    rw [whole]
    positivity
  have scaled : |x| / 2 ^ lastPlace x = n := by
    rw [abs_of_nonneg nonneg, div_eq_iff unit.ne']
    exact whole
  rw [nearest_of_nonneg x nonneg, scaled, halfEven_natCast]
  exact whole.symm

theorem lastPlace_power (e : ℤ) (fine : -1074 ≤ e) : lastPlace (2 ^ 53 * 2 ^ e) = e + 1 := by
  have size : |(2 : ℚ) ^ 53 * 2 ^ e| = 2 ^ (53 + e) := by
    rw [abs_of_nonneg (by positivity), zpow_add₀ two_ne_zero]
    norm_cast
  have digits := Int.log_zpow (R := ℚ) (b := 2) one_lt_two (53 + e)
  rw [Nat.cast_ofNat] at digits
  rw [lastPlace, size, digits]
  omega

theorem nearest_dyadic (k : ℕ) (e : ℤ) (few : k ≤ 2 ^ 53) (fine : -1074 ≤ e) :
    nearest (k * 2 ^ e) = k * 2 ^ e := by
  have unit : (0 : ℚ) < 2 ^ e := by positivity
  rcases Nat.eq_zero_or_pos k with rfl | pos
  · rw [Nat.cast_zero, zero_mul, nearest_zero]
  by_cases coarse : lastPlace (k * 2 ^ e) ≤ e
  · obtain ⟨d, shift⟩ := Int.eq_ofNat_of_zero_le (sub_nonneg.mpr coarse)
    apply nearest_whole _ (k * 2 ^ d)
    calc
      (k : ℚ) * 2 ^ e = k * 2 ^ ((d : ℤ) + lastPlace (k * 2 ^ e)) := by
        congr 2
        omega
      _ = ((k * 2 ^ d : ℕ) : ℚ) * 2 ^ lastPlace (k * 2 ^ e) := by
        rw [zpow_add₀ two_ne_zero, zpow_natCast]
        push_cast
        ring
  · -- the last place lies above `e` only when the digits carry into a 54th one
    have size : |(k : ℚ) * 2 ^ e| = k * 2 ^ e := abs_of_nonneg (by positivity)
    have high : e + 53 ≤ Int.log 2 |(k : ℚ) * 2 ^ e| := by
      rw [lastPlace] at coarse
      omega
    have large : (2 : ℚ) ^ (e + 53) ≤ k * 2 ^ e := by
      have below := (Int.zpow_le_iff_le_log (R := ℚ) (b := 2) one_lt_two
        (abs_pos.mpr (by positivity : (k : ℚ) * 2 ^ e ≠ 0))).mpr high
      rwa [size, Nat.cast_ofNat] at below
    rw [zpow_add₀ two_ne_zero, mul_comm, mul_le_mul_iff_left₀ unit] at large
    have full : k = 2 ^ 53 := le_antisymm few (by exact_mod_cast large)
    have value : (k : ℚ) = 2 ^ 53 := by
      rw [full]
      norm_cast
    apply nearest_whole _ (2 ^ 52)
    rw [value, lastPlace_power e fine, zpow_add₀ two_ne_zero]
    norm_num
    ring

theorem nearest_nearest (x : ℚ) : nearest (nearest x) = nearest x := by
  have unit : (0 : ℚ) < 2 ^ lastPlace x := by positivity
  have few : halfEven (|x| / 2 ^ lastPlace x) ≤ 2 ^ 53 := by
    apply halfEven_le
    rw [div_lt_iff₀ unit]
    have bound := Int.lt_zpow_succ_log_self (R := ℚ) (b := 2) one_lt_two |x|
    calc
      |x| < (2 : ℚ) ^ (Int.log 2 |x| + 1) := by exact_mod_cast bound
      _ ≤ (2 : ℚ) ^ (53 + lastPlace x) := by
        apply zpow_le_zpow_right₀ one_le_two
        rw [lastPlace]
        omega
      _ = ((2 ^ 53 : ℕ) : ℚ) * 2 ^ lastPlace x := by
        rw [zpow_add₀ two_ne_zero]
        norm_cast
  have kept := nearest_dyadic _ (lastPlace x) few (le_max_right _ _)
  rcases lt_or_ge x 0 with low | high
  · rw [nearest_of_neg x low, nearest_neg, kept]
  · rw [nearest_of_nonneg x high, kept]

/-- A double. The sign of a zero is left out. -/
inductive Binary64 where
  | finite (x : ℚ) (kept : nearest x = x) (bounded : |x| < 2 ^ 1024)
  | infinity (negative : Bool)
  | nan
  deriving DecidableEq

namespace Binary64

def ofRat (x : ℚ) : Binary64 :=
  if bounded : |nearest x| < 2 ^ 1024 then .finite (nearest x) (nearest_nearest x) bounded
  else .infinity (decide (x < 0))

def toRat : Binary64 → ℚ
  | finite x _ _ => x
  | infinity _ => 0
  | nan => 0

def neg : Binary64 → Binary64
  | finite x kept bounded => finite (-x) (by rw [nearest_neg, kept]) (by rwa [abs_neg])
  | infinity negative => infinity (!negative)
  | nan => nan

def add : Binary64 → Binary64 → Binary64
  | finite x _ _, finite y _ _ => ofRat (x + y)
  | finite _ _ _, infinity negative => infinity negative
  | infinity negative, finite _ _ _ => infinity negative
  | infinity left, infinity right => if left = right then infinity left else nan
  | _, _ => nan

def mul : Binary64 → Binary64 → Binary64
  | finite x _ _, finite y _ _ => ofRat (x * y)
  | finite x _ _, infinity negative => if x = 0 then nan else infinity (negative ^^ decide (x < 0))
  | infinity negative, finite x _ _ => if x = 0 then nan else infinity (negative ^^ decide (x < 0))
  | infinity left, infinity right => infinity (left ^^ right)
  | _, _ => nan

def Nonneg : Binary64 → Prop
  | finite x _ _ => 0 ≤ x
  | infinity negative => negative = false
  | nan => False

instance : DecidablePred Nonneg := fun x =>
  match x with
  | finite x _ _ => inferInstanceAs (Decidable (0 ≤ x))
  | infinity negative => inferInstanceAs (Decidable (negative = false))
  | nan => isFalse id

theorem ofRat_neg (x : ℚ) : ofRat (-x) = (ofRat x).neg := by
  simp only [ofRat, nearest_neg, abs_neg]
  split
  · rfl
  · rename_i large
    have nonzero : x ≠ 0 := by
      rintro rfl
      simp at large
    simp only [neg, infinity.injEq]
    rcases lt_or_gt_of_ne nonzero with low | high
    · simp [low, low.le]
    · simp [high, high.le]

end Binary64

end EWallet
