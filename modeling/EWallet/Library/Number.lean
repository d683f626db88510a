import EWallet.Library.Binary64
import Mathlib.Algebra.Order.BigOperators.Group.List

namespace EWallet.Firestore

/-- A number of a program or of a stored document: an integer, which every operation keeps within
64 bits, or a double. -/
inductive Number where
  | int (n : Int)
  | double (x : Binary64)
  deriving DecidableEq

namespace Number

def toRat : Number → ℚ
  | int n => n
  | double x => x.toRat

def toBinary64 : Number → Binary64
  | int n => .ofRat n
  | double x => x

def wrap (n : Int) : Int := n.bmod (2 ^ 64)

def clamp (n : Int) : Int := max (-2 ^ 63) (min (2 ^ 63 - 1) n)

def neg : Number → Number
  | int n => int (wrap (-n))
  | double x => double x.neg

def sub : Number → Number → Number
  | int m, int n => int (wrap (m - n))
  | m, n => double (m.toBinary64.add n.toBinary64.neg)

def mul : Number → Number → Number
  | int m, int n => int (wrap (m * n))
  | m, n => double (m.toBinary64.mul n.toBinary64)

instance : Neg Number := ⟨neg⟩
instance : Sub Number := ⟨sub⟩
instance : Mul Number := ⟨mul⟩

/-- What the server makes of a stored number: the sum of two integers stops at the bounds, any
other sum is that of doubles. -/
def increase : Number → Number → Number
  | int m, int n => int (clamp (m + n))
  | m, n => double (m.toBinary64.add n.toBinary64)

def decrease (m n : Number) : Number := m.increase (-n)

def Nonneg : Number → Prop
  | int n => 0 ≤ n
  | double x => x.Nonneg

instance : DecidablePred Nonneg := fun n =>
  match n with
  | int n => inferInstanceAs (Decidable (0 ≤ n))
  | double x => inferInstanceAs (Decidable x.Nonneg)

def toInt : Number → Option Int
  | int n => some n
  | double (.finite x _ _) => some (clamp (x.num.tdiv x.den))
  | double _ => none

/-- The opposite is computed as such, as it is of every double and of every integer of 64 bits but
the least. -/
def HasOpposite : Number → Prop
  | int n => wrap (-n) = -n
  | double _ => True

instance : DecidablePred HasOpposite := fun n =>
  match n with
  | int n => inferInstanceAs (Decidable (wrap (-n) = -n))
  | double _ => isTrue trivial

theorem decrease_double (x : Binary64) (n : Number) (opposite : n.HasOpposite) :
    (double x).decrease n = double x - n := by
  cases n with
  | double y => rfl
  | int k =>
      change double (x.add (.ofRat ((wrap (-k) : Int) : ℚ))) = double (x.add (Binary64.ofRat k).neg)
      rw [opposite, Int.cast_neg, Binary64.ofRat_neg]

theorem nonneg_decrease (m n : Number) (start : m.Nonneg) (opposite : n.HasOpposite)
    (enough : (m - n).Nonneg) : (m.decrease n).Nonneg := by
  cases m with
  | double x =>
      rw [decrease_double x n opposite]
      exact enough
  | int j =>
      cases n with
      | double y => exact enough
      | int k =>
          change 0 ≤ wrap (j - k) at enough
          change 0 ≤ clamp (j + wrap (-k))
          change 0 ≤ j at start
          change wrap (-k) = -k at opposite
          rw [opposite]
          simp only [wrap, clamp, Int.bmod] at *
          norm_num at *
          omega

theorem increase_int (m n : Int) (room : |m| + |n| < 2 ^ 63) :
    (int m).increase (int n) = int (m + n) := by
  change int (clamp (m + n)) = _
  rw [clamp]
  grind

theorem sub_int (m n : Int) (room : |m| + |n| < 2 ^ 63) : int m - int n = int (m - n) := by
  change int (wrap (m - n)) = _
  rw [wrap, Int.bmod_eq_of_le (by grind) (by grind)]

theorem decrease_int (m n : Int) (room : |m| + |n| < 2 ^ 63) :
    (int m).decrease (int n) = int (m - n) := by
  have opposite : -int n = int (-n) := by
    change int (wrap (-n)) = _
    rw [wrap, Int.bmod_eq_of_le (by grind) (by grind)]
  rw [decrease, opposite, increase_int m (-n) (by rwa [abs_neg]), sub_eq_add_neg]

theorem foldl_decrease_int (m : Int) (ns : List Int) (room : |m| + (ns.map abs).sum < 2 ^ 63) :
    (ns.map int).foldl decrease (int m) = int (m - ns.sum) := by
  induction ns generalizing m with
  | nil => simp
  | cons n rest ih =>
      have others : 0 ≤ (rest.map abs).sum := List.sum_nonneg (by simp)
      rw [List.map_cons, List.sum_cons] at room
      rw [List.map_cons, List.foldl_cons, decrease_int m n (by omega), ih (m - n), List.sum_cons,
        sub_sub]
      have shrunk := abs_sub m n
      omega

end Number

end EWallet.Firestore
