import Mathlib.Algebra.BigOperators.Group.Finset.Basic
import Mathlib.Algebra.Order.BigOperators.Group.Finset
import Mathlib.Data.Fintype.BigOperators
import Mathlib.Tactic.Abel

namespace EWallet.Engagement

/-- A common level, and what each process may still take from it without looking at it again. -/
structure Purse (ι M : Type*) where
  level : M
  held : ι → M

variable {ι M : Type*} [Fintype ι] [DecidableEq ι] [AddCommGroup M] [LinearOrder M]

/-- What a process can do: look at the level and hold an amount the level covers, hold less, or
take at most what it holds and let go of it. -/
inductive Move (cap : M) : Purse ι M → Purse ι M → Prop
  | stay (s : Purse ι M) : Move cap s s
  | look (s : Purse ι M) (i : ι) (x : M) (nonneg : 0 ≤ x) (capped : x ≤ cap)
      (covered : x ≤ max 0 s.level) : Move cap s ⟨s.level, Function.update s.held i x⟩
  | lower (s : Purse ι M) (i : ι) (x : M) (nonneg : 0 ≤ x) (less : x ≤ s.held i) :
      Move cap s ⟨s.level, Function.update s.held i x⟩
  | take (s : Purse ι M) (i : ι) (p : M) (less : p ≤ s.held i) :
      Move cap s ⟨s.level - p, Function.update s.held i 0⟩

def Sound (cap : M) (s : Purse ι M) : Prop := ∀ i, 0 ≤ s.held i ∧ s.held i ≤ cap

def holders (s : Purse ι M) : Finset ι := Finset.univ.filter (fun i => s.held i ≠ 0)

/-- Should all that is held be taken, the level would be at least `floor` less `n` full amounts. -/
def Secured (floor cap : M) (n : ℕ) (s : Purse ι M) : Prop :=
  floor - n • cap ≤ s.level - ∑ i, s.held i

omit [LinearOrder M] in
theorem sum_update (held : ι → M) (i : ι) (x : M) :
    ∑ j, Function.update held i x j = x + ∑ j ∈ Finset.univ.erase i, held j := by
  rw [Finset.sum_update_of_mem (Finset.mem_univ i), Finset.sdiff_singleton_eq_erase]

omit [Fintype ι] in
theorem move_sound {cap : M} {s s' : Purse ι M} (room : 0 ≤ cap) (move : Move cap s s')
    (sound : Sound cap s) : Sound cap s' := by
  cases move with
  | stay => exact sound
  | look i x nonneg capped covered =>
      exact (Function.forall_update_iff s.held (fun _ y => 0 ≤ y ∧ y ≤ cap)).mpr
        ⟨⟨nonneg, capped⟩, fun j _ => sound j⟩
  | lower i x nonneg less =>
      exact (Function.forall_update_iff s.held (fun _ y => 0 ≤ y ∧ y ≤ cap)).mpr
        ⟨⟨nonneg, less.trans (sound i).2⟩, fun j _ => sound j⟩
  | take i p less =>
      exact (Function.forall_update_iff s.held (fun _ y => 0 ≤ y ∧ y ≤ cap)).mpr
        ⟨⟨le_rfl, room⟩, fun j _ => sound j⟩

variable [IsOrderedAddMonoid M]

theorem secured_lower {floor cap : M} {n : ℕ} {s : Purse ι M} (i : ι) (x : M)
    (less : x ≤ s.held i) (secured : Secured floor cap n s) :
    Secured floor cap n ⟨s.level, Function.update s.held i x⟩ := by
  have total : ∑ j, Function.update s.held i x j ≤ ∑ j, s.held j := by
    rw [sum_update, ← Finset.add_sum_erase _ s.held (Finset.mem_univ i)]
    exact add_le_add_left less _
  exact secured.trans (sub_le_sub_left total _)

theorem secured_take {floor cap : M} {n : ℕ} {s : Purse ι M} (i : ι) (p : M)
    (less : p ≤ s.held i) (secured : Secured floor cap n s) :
    Secured floor cap n ⟨s.level - p, Function.update s.held i 0⟩ := by
  have total : p + ∑ j, Function.update s.held i 0 j ≤ ∑ j, s.held j := by
    rw [sum_update, zero_add, ← Finset.add_sum_erase _ s.held (Finset.mem_univ i)]
    exact add_le_add_left less _
  calc
    floor - n • cap ≤ s.level - ∑ j, s.held j := secured
    _ ≤ s.level - (p + ∑ j, Function.update s.held i 0 j) := sub_le_sub_left total _
    _ = s.level - p - ∑ j, Function.update s.held i 0 j := (sub_sub _ _ _).symm

theorem secured_look {floor cap : M} {n : ℕ} {s : Purse ι M} (i : ι) (x : M) (below : floor ≤ 0)
    (sound : Sound cap s) (seen : x ≤ s.level)
    (few : ((Finset.univ.erase i).filter (fun j => s.held j ≠ 0)).card ≤ n) (room : 0 ≤ cap) :
    Secured floor cap n ⟨s.level, Function.update s.held i x⟩ := by
  have others : ∑ j ∈ Finset.univ.erase i, s.held j ≤ n • cap := by
    calc
      ∑ j ∈ Finset.univ.erase i, s.held j =
          ∑ j ∈ (Finset.univ.erase i).filter (fun j => s.held j ≠ 0), s.held j :=
        (Finset.sum_filter_ne_zero _).symm
      _ ≤ ((Finset.univ.erase i).filter (fun j => s.held j ≠ 0)).card • cap :=
        Finset.sum_le_card_nsmul _ _ _ (fun j _ => (sound j).2)
      _ ≤ n • cap := nsmul_le_nsmul_left room few
  have total : ∑ j, Function.update s.held i x j ≤ s.level + n • cap := by
    rw [sum_update]
    exact add_le_add seen others
  calc
    floor - n • cap ≤ 0 - n • cap := sub_le_sub_right below _
    _ = s.level - (s.level + n • cap) := by abel
    _ ≤ s.level - ∑ j, Function.update s.held i x j := sub_le_sub_left total _

omit [IsOrderedAddMonoid M] in
theorem holders_look (s : Purse ι M) (i : ι) (x : M) (some_ : x ≠ 0) :
    (holders ⟨s.level, Function.update s.held i x⟩).card =
      ((Finset.univ.erase i).filter (fun j => s.held j ≠ 0)).card + 1 := by
  have split : holders ⟨s.level, Function.update s.held i x⟩ =
      insert i ((Finset.univ.erase i).filter (fun j => s.held j ≠ 0)) := by
    ext j
    by_cases same : j = i
    · subst same
      simp [holders, some_]
    · simp [holders, same]
  rw [split, Finset.card_insert_of_notMem (by simp)]

/-- The step rule: with at most `n + 1` holders after the step, the level stays secured. -/
theorem move_secured {floor cap : M} {n : ℕ} {s s' : Purse ι M} (room : 0 ≤ cap)
    (below : floor ≤ 0) (sound : Sound cap s) (few : (holders s').card ≤ n + 1)
    (secured : Secured floor cap n s) (move : Move cap s s') : Secured floor cap n s' := by
  cases move with
  | stay => exact secured
  | look i x nonneg capped covered =>
      rcases le_max_iff.mp covered with none_ | seen
      · exact secured_lower i x (none_.trans (sound i).1) secured
      · by_cases zero : x = 0
        · exact secured_lower i x (zero ▸ (sound i).1) secured
        · rw [holders_look s i x zero] at few
          exact secured_look i x below sound seen (by omega) room
  | lower i x nonneg less => exact secured_lower i x less secured
  | take i p less => exact secured_take i p less secured

omit [DecidableEq ι] in
theorem secured_level {floor cap : M} {n : ℕ} {s : Purse ι M} (sound : Sound cap s)
    (secured : Secured floor cap n s) : floor - n • cap ≤ s.level :=
  secured.trans (sub_le_self _ (Finset.sum_nonneg (fun i _ => (sound i).1)))

end EWallet.Engagement
