import Mathlib.Data.List.Nodup
import Mathlib.Data.List.Sort
import Mathlib.Order.Basic

namespace EWallet.Selection

variable {α κ : Type*} [LinearOrder κ] (key : α → κ)

def sortOn (l : List α) : List α := l.insertionSort (fun a b => key a ≤ key b)

def smallest (k : ℕ) (l : List α) : List α := (sortOn key l).take k

/-- `x` is among the last `k` elements by ascending key: fewer than `k` come after it. -/
def Largest (k : ℕ) (l : List α) (x : α) : Prop :=
  x ∈ l ∧ l.countP (fun y => key x < key y) < k

theorem le_foldr_max (f : α → ℕ) (l : List α) (a : α) (member : a ∈ l) :
    f a ≤ l.foldr (fun b n => max (f b) n) 0 := by
  induction l with
  | nil => cases member
  | cons head rest ih =>
      rw [List.foldr_cons]
      rcases List.mem_cons.mp member with rfl | inside
      · exact le_max_left _ _
      · exact (ih inside).trans (le_max_right _ _)

theorem sortOn_perm (l : List α) : (sortOn key l).Perm l := List.perm_insertionSort _ l

theorem sortOn_strict (l : List α) (distinct : (l.map key).Nodup) :
    (sortOn key l).Pairwise (fun a b => key a < key b) := by
  have keys : (sortOn key l).map key = (l.map key).insertionSort (· ≤ ·) :=
    List.map_insertionSort _ _ key l (fun _ _ _ _ => Iff.rfl)
  have unique : ((sortOn key l).map key).Nodup :=
    ((sortOn_perm key l).map key).nodup_iff.mpr distinct
  rw [keys] at unique
  rw [← List.pairwise_map, keys]
  exact (List.sortedLE_insertionSort.sortedLT_of_nodup unique).pairwise

theorem mem_take_iff (l : List α) (sorted : l.Pairwise (fun a b => key a < key b)) (k : ℕ) (x : α) :
    x ∈ l.take k ↔ x ∈ l ∧ l.countP (fun y => key y < key x) < k := by
  induction l generalizing k with
  | nil => simp
  | cons a rest ih =>
      obtain ⟨first, sorted⟩ := List.pairwise_cons.mp sorted
      cases k with
      | zero => simp
      | succ k =>
          rw [List.take_succ_cons, List.mem_cons, List.mem_cons, ih sorted, List.countP_cons]
          by_cases same : x = a
          · subst same
            have none_before : rest.countP (fun y => key y < key x) = 0 := by
              rw [List.countP_eq_zero]
              intro y member
              simpa using (first y member).le
            simp [none_before]
          · by_cases member : x ∈ rest
            · simp [same, member, first x member]
            · simp [same, member]

theorem mem_smallest_iff (l : List α) (distinct : (l.map key).Nodup) (k : ℕ) (x : α) :
    x ∈ smallest key k l ↔ x ∈ l ∧ l.countP (fun y => key y < key x) < k := by
  rw [smallest, mem_take_iff key _ (sortOn_strict key l distinct), (sortOn_perm key l).mem_iff,
    (sortOn_perm key l).countP_eq]

theorem smallest_nodup (k : ℕ) (l : List α) (distinct : (l.map key).Nodup) :
    (smallest key k l).Nodup :=
  ((sortOn_perm key l).nodup_iff.mpr distinct.of_map).sublist (List.take_sublist k _)

theorem before_add_after (l : List α) (distinct : (l.map key).Nodup) (x : α) (member : x ∈ l) :
    l.countP (fun y => key y < key x) + l.countP (fun y => key x < key y) + 1 = l.length := by
  obtain ⟨front, back, rfl⟩ := List.append_of_mem member
  have others : ∀ y ∈ front ++ back, key y ≠ key x := by
    rw [List.map_append, List.map_cons, List.nodup_middle, List.nodup_cons,
      ← List.map_append] at distinct
    intro y inside same
    exact distinct.1 (same ▸ List.mem_map_of_mem inside)
  have after : (front ++ back).countP (fun y => ¬ (decide (key y < key x) = true)) =
      (front ++ back).countP (fun y => key x < key y) := by
    apply List.countP_congr
    intro y inside
    simp [(others y inside).symm.le_iff_lt]
  have split := List.length_eq_countP_add_countP (fun y => decide (key y < key x))
    (l := front ++ back)
  rw [after] at split
  simp only [List.countP_append, List.length_append] at split
  simp only [List.countP_append, List.countP_cons, List.length_append, List.length_cons,
    lt_irrefl, decide_false, Bool.false_eq_true, if_false]
  omega

/-- The first `k` elements are the last `k` if and only if there are no more than `k`. -/
theorem smallest_eq_largest_iff (l : List α) (distinct : (l.map key).Nodup) (k : ℕ)
    (positive : 0 < k) :
    (∀ x, x ∈ smallest key k l ↔ Largest key k l x) ↔ l.length ≤ k := by
  constructor
  · intro same
    by_contra many
    have length := (sortOn_perm key l).length_eq
    obtain ⟨least, rest, sorted⟩ := List.exists_cons_of_length_pos
      (show 0 < (sortOn key l).length by omega)
    have head : ∀ n, 0 < n → least ∈ smallest key n l := by
      intro n nonzero
      rw [smallest, sorted, ← Nat.sub_one_add_one nonzero.ne', List.take_succ_cons]
      exact List.mem_cons_self
    obtain ⟨member, early⟩ := (mem_smallest_iff key l distinct 1 least).mp (head 1 one_pos)
    have late := ((same least).mp (head k positive)).2
    have all := before_add_after key l distinct least member
    omega
  · intro few x
    rw [mem_smallest_iff key l distinct, Largest]
    apply and_congr_right
    intro member
    have all := before_add_after key l distinct x member
    exact iff_of_true (by omega) (by omega)

theorem sortOn_later (l l' : List α) (x : α) (distinct : (l.map key).Nodup)
    (added : l'.Perm (x :: l)) (later : ∀ y ∈ l, key y < key x) :
    sortOn key l' = sortOn key l ++ [x] := by
  have fresh : key x ∉ l.map key := by
    intro found
    obtain ⟨y, member, same⟩ := List.mem_map.mp found
    exact (later y member).ne same
  have distinct' : (l'.map key).Nodup := by
    rw [(added.map key).nodup_iff, List.map_cons, List.nodup_cons]
    exact ⟨fresh, distinct⟩
  have perm : (sortOn key l').Perm (sortOn key l ++ [x]) := by
    calc
      List.Perm (sortOn key l') l' := sortOn_perm key l'
      List.Perm _ (x :: l) := added
      List.Perm _ (x :: sortOn key l) := ((sortOn_perm key l).cons x).symm
      List.Perm _ (sortOn key l ++ [x]) := (List.perm_append_singleton x _).symm
  have sorted : (sortOn key l ++ [x]).Pairwise (fun a b => key a < key b) := by
    rw [List.pairwise_append]
    refine ⟨sortOn_strict key l distinct, List.pairwise_singleton _ x, ?_⟩
    intro y member z last
    rw [List.mem_singleton.mp last]
    exact later y ((sortOn_perm key l).mem_iff.mp member)
  exact perm.eq_of_pairwise (fun _ _ _ _ below above => absurd below (lt_asymm above))
    (sortOn_strict key l' distinct') sorted

theorem smallest_later_full (l l' : List α) (x : α) (distinct : (l.map key).Nodup)
    (added : l'.Perm (x :: l)) (later : ∀ y ∈ l, key y < key x) (k : ℕ) (full : k ≤ l.length) :
    smallest key k l' = smallest key k l := by
  rw [smallest, smallest, sortOn_later key l l' x distinct added later,
    List.take_append_of_le_length (by rwa [(sortOn_perm key l).length_eq])]

theorem mem_smallest_later_iff (l l' : List α) (x : α) (distinct : (l.map key).Nodup)
    (added : l'.Perm (x :: l)) (later : ∀ y ∈ l, key y < key x) (k : ℕ) :
    x ∈ smallest key k l' ↔ l.length < k := by
  have absent : x ∉ sortOn key l := by
    intro member
    exact (later x ((sortOn_perm key l).mem_iff.mp member)).false
  rw [smallest, sortOn_later key l l' x distinct added later, List.take_append,
    (sortOn_perm key l).length_eq, List.mem_append]
  by_cases room : l.length < k
  · rw [List.take_of_length_le (l := [x]) (by rw [List.length_singleton]; omega)]
    exact iff_of_true (Or.inr (List.mem_singleton_self x)) room
  · rw [Nat.sub_eq_zero_of_le (Nat.le_of_not_lt room), List.take_zero]
    refine iff_of_false ?_ room
    rintro (early | last)
    · exact absent (List.mem_of_mem_take early)
    · exact List.not_mem_nil last

end EWallet.Selection
