import Mathlib.Algebra.Order.Group.Multiset

namespace EWallet.Shopping

variable {α : Type*} [DecidableEq α]

/-- What is in a basket, with repetitions, and what has been ordered out of it. -/
structure Basket (α : Type*) where
  content : Multiset α
  ordered : Multiset α

inductive Wish (α : Type*) where
  | add (a : α)
  | remove (a : α)
  | order
  | nothing

def empty : Basket α := ⟨0, 0⟩

def grant (b : Basket α) : Wish α → Basket α
  | .add a => { b with content := a ::ₘ b.content }
  | .remove a => { b with content := b.content.erase a }
  | .order => ⟨0, b.ordered + b.content⟩
  | .nothing => b

def Counts (table : α → ℤ) (m : Multiset α) : Prop := ∀ a, table a = m.count a

theorem counts_congr (table table' : α → ℤ) (m : Multiset α) (counts : Counts table m)
    (same : ∀ x, table' x = table x) : Counts table' m := by
  intro x
  rw [same, counts x]

theorem counts_zero (table : α → ℤ) (none_ : ∀ x, table x = 0) : Counts table 0 := by
  intro x
  rw [none_, Multiset.count_zero, Int.natCast_zero]

theorem counts_add (table table' : α → ℤ) (m : Multiset α) (a : α) (counts : Counts table m)
    (raised : ∀ x, table' x = table x + if x = a then 1 else 0) : Counts table' (a ::ₘ m) := by
  intro x
  rw [raised, counts x, Multiset.count_cons]
  split
  · omega
  · omega

theorem counts_remove (table table' : α → ℤ) (m : Multiset α) (a : α) (counts : Counts table m)
    (nonneg : ∀ x, 0 ≤ table' x)
    (lowered : ∀ x, table' x + (if x = a then 1 else 0) = table x) :
    Counts table' (m.erase a) := by
  intro x
  have before := lowered x
  have left := nonneg x
  rw [counts x] at before
  by_cases same : x = a
  · subst same
    rw [if_pos rfl] at before
    rw [Multiset.count_erase_self]
    omega
  · rw [if_neg same] at before
    rw [Multiset.count_erase_of_ne same]
    omega

theorem counts_union (table table' : α → ℤ) (m m' : Multiset α) (counts : Counts table m)
    (counts' : Counts table' m') : Counts (fun x => table x + table' x) (m + m') := by
  intro x
  rw [Multiset.count_add, Int.natCast_add, ← counts x, ← counts' x]

end EWallet.Shopping
