import Mathlib.Algebra.BigOperators.Group.List.Basic

namespace EWallet

/-- What has become of calls that were made and not awaited. The answer to one of them may come at
any time, or never. -/
structure Calls (μ : Type*) where
  pending : List μ
  landed : List μ
  refused : List μ

namespace Calls

variable {μ : Type*}

def none : Calls μ := ⟨[], [], []⟩

def start (c : Calls μ) (calls : List μ) : Calls μ := { c with pending := c.pending ++ calls }

def land (c : Calls μ) (k : ℕ) : Calls μ :=
  { c with pending := c.pending.eraseIdx k, landed := c.landed ++ c.pending[k]?.toList }

def refuse (c : Calls μ) (k : ℕ) : Calls μ :=
  { c with pending := c.pending.eraseIdx k, refused := c.refused ++ c.pending[k]?.toList }

def all (c : Calls μ) : List μ := c.refused ++ c.landed ++ c.pending

theorem all_start (c : Calls μ) (calls : List μ) : (c.start calls).all = c.all ++ calls := by
  simp only [all, start, List.append_assoc]

theorem taken_perm (l : List μ) (k : ℕ) : (l[k]?.toList ++ l.eraseIdx k).Perm l := by
  by_cases inside : k < l.length
  · rw [List.getElem?_eq_getElem inside]
    exact List.getElem_cons_eraseIdx_perm inside
  · rw [List.getElem?_eq_none (by omega), List.eraseIdx_of_length_le (by omega)]
    exact List.Perm.refl l

theorem all_land (c : Calls μ) (k : ℕ) : (c.land k).all.Perm c.all := by
  have moved : (c.land k).all =
      c.refused ++ c.landed ++ (c.pending[k]?.toList ++ c.pending.eraseIdx k) := by
    simp only [all, land, List.append_assoc]
  rw [moved]
  exact (taken_perm c.pending k).append_left _

theorem all_refuse (c : Calls μ) (k : ℕ) : (c.refuse k).all.Perm c.all := by
  have moved : (c.refuse k).all =
      c.refused ++ (c.pending[k]?.toList ++ (c.landed ++ c.pending.eraseIdx k)) := by
    simp only [all, refuse, List.append_assoc]
  have past := (List.perm_append_comm_assoc c.pending[k]?.toList c.landed
    (c.pending.eraseIdx k)).append_left c.refused
  rw [moved]
  refine past.trans ?_
  rw [← List.append_assoc]
  exact (taken_perm c.pending k).append_left _

theorem sum_all {M : Type*} [AddCommMonoid M] (w : μ → M) (c : Calls μ) :
    (c.all.map w).sum =
      (c.refused.map w).sum + (c.landed.map w).sum + (c.pending.map w).sum := by
  simp only [all, List.map_append, List.sum_append]

theorem mem_landed (c : Calls μ) {call : μ} (member : call ∈ c.landed) : call ∈ c.all :=
  List.mem_append_left _ (List.mem_append_right _ member)

end Calls

end EWallet
