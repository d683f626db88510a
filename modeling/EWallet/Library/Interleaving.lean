import EWallet.Library.Machine
import Mathlib.Data.Fintype.Defs
import Mathlib.Data.List.Induction
import Mathlib.Logic.Function.Iterate

namespace EWallet.Interleaving

/-- Processes indexed by `ι` share one state of type `σ`; each also has its own local state. -/
structure Config (σ ι ℓ : Type*) where
  shared : σ
  loc : ι → ℓ

variable {σ ι ℓ : Type*} [DecidableEq ι] (next : ι → σ → ℓ → σ × ℓ)

def step (c : Config σ ι ℓ) (i : ι) : Config σ ι ℓ :=
  ⟨(next i c.shared (c.loc i)).1, Function.update c.loc i (next i c.shared (c.loc i)).2⟩

def run (c : Config σ ι ℓ) (schedule : List ι) : Config σ ι ℓ :=
  Machine.run (step next) c schedule

def initial (s : σ) (fresh : ℓ) : Config σ ι ℓ := ⟨s, fun _ => fresh⟩

@[simp] theorem run_nil (c : Config σ ι ℓ) : run next c [] = c := rfl

theorem run_cons (c : Config σ ι ℓ) (i : ι) (rest : List ι) :
    run next c (i :: rest) = run next (step next c i) rest := rfl

theorem run_append (c : Config σ ι ℓ) (front back : List ι) :
    run next c (front ++ back) = run next (run next c front) back :=
  Machine.run_append (step next) c front back

theorem run_snoc (c : Config σ ι ℓ) (front : List ι) (i : ι) :
    run next c (front ++ [i]) = step next (run next c front) i :=
  Machine.run_snoc (step next) c front i

@[simp] theorem step_shared (c : Config σ ι ℓ) (i : ι) :
    (step next c i).shared = (next i c.shared (c.loc i)).1 := rfl

@[simp] theorem step_loc_self (c : Config σ ι ℓ) (i : ι) :
    (step next c i).loc i = (next i c.shared (c.loc i)).2 := by
  simp [step]

theorem step_loc_other (c : Config σ ι ℓ) {i j : ι} (different : j ≠ i) :
    (step next c i).loc j = c.loc j := by
  simp [step, different]

theorem run_each (Q : σ → Prop) (before after : ℓ) (schedule : List ι)
    (moves : ∀ i ∈ schedule, ∀ s, Q s → Q (next i s before).1 ∧ (next i s before).2 = after)
    (distinct : schedule.Nodup) (c : Config σ ι ℓ) (start : Q c.shared)
    (ready : ∀ i ∈ schedule, c.loc i = before) :
    Q (run next c schedule).shared ∧
      ∀ j, (run next c schedule).loc j = if j ∈ schedule then after else c.loc j := by
  induction schedule generalizing c with
  | nil => exact ⟨start, fun j => by simp⟩
  | cons i rest ih =>
      obtain ⟨absent, distinct⟩ := List.nodup_cons.mp distinct
      obtain ⟨kept, moved⟩ := moves i List.mem_cons_self c.shared start
      have here := ready i List.mem_cons_self
      obtain ⟨last, places⟩ := ih (fun j member => moves j (List.mem_cons_of_mem i member)) distinct
        (step next c i) (by rw [step_shared, here]; exact kept) (by
          intro j member
          rw [step_loc_other next c (ne_of_mem_of_not_mem member absent)]
          exact ready j (List.mem_cons_of_mem i member))
      refine ⟨last, fun j => ?_⟩
      rw [run_cons, places]
      by_cases same : j = i
      · subst same
        rw [if_neg absent, if_pos List.mem_cons_self, step_loc_self, here, moved]
      · rw [step_loc_other next c same]
        simp [same]

def solo (i : ι) (n : ℕ) (p : σ × ℓ) : σ × ℓ :=
  (fun q => next i q.1 q.2)^[n] p

omit [DecidableEq ι] in
theorem solo_succ (i : ι) (n : ℕ) (p : σ × ℓ) :
    solo next i (n + 1) p = next i (solo next i n p).1 (solo next i n p).2 := by
  simp only [solo, Function.iterate_succ_apply']

omit [DecidableEq ι] in
theorem solo_add (i : ι) (m n : ℕ) (p : σ × ℓ) :
    solo next i (m + n) p = solo next i m (solo next i n p) := by
  simp only [solo, Function.iterate_add_apply]

section Separation

variable {ω τ : Type*} (owner : ι → ω) (view : ω → σ → τ) (fresh : ℓ) (Fits : ι → τ → ℓ → Prop)

/-- A step of a process whose local state fits what its owner sees reads and changes nothing of
the shared state but its owner's view, and local states keep fitting. -/
structure Separated : Prop where
  own : ∀ i s s' l, view (owner i) s = view (owner i) s' → Fits i (view (owner i) s) l →
    view (owner i) (next i s l).1 = view (owner i) (next i s' l).1 ∧
      (next i s l).2 = (next i s' l).2
  other : ∀ i u s l, u ≠ owner i → Fits i (view (owner i) s) l → view u (next i s l).1 = view u s
  fresh_fits : ∀ i t, Fits i t fresh
  step_fits : ∀ i s l, Fits i (view (owner i) s) l →
    Fits i (view (owner i) (next i s l).1) (next i s l).2
  others_fit : ∀ i j s l l', owner j = owner i → Fits i (view (owner i) s) l →
    Fits j (view (owner i) s) l' → Fits i (view (owner i) (next j s l').1) l

def AllFit (c : Config σ ι ℓ) : Prop := ∀ i, Fits i (view (owner i) c.shared) (c.loc i)

variable {next owner view fresh Fits}

theorem step_view (separated : Separated next owner view fresh Fits) (c : Config σ ι ℓ) (i : ι)
    (fit : AllFit owner view Fits c) (u : ω) (foreign : u ≠ owner i) :
    view u (step next c i).shared = view u c.shared :=
  separated.other i u c.shared (c.loc i) foreign (fit i)

theorem step_allFit (separated : Separated next owner view fresh Fits) (c : Config σ ι ℓ) (i : ι)
    (fit : AllFit owner view Fits c) : AllFit owner view Fits (step next c i) := by
  intro j
  by_cases self : j = i
  · subst self
    rw [step_shared, step_loc_self]
    exact separated.step_fits j _ _ (fit j)
  · rw [step_loc_other next c self]
    by_cases same : owner i = owner j
    · have seen := fit i
      rw [same] at seen
      exact separated.others_fit j i c.shared (c.loc j) (c.loc i) same (fit j) seen
    · rw [step_view separated c i fit (owner j) (Ne.symm same)]
      exact fit j

theorem run_allFit (separated : Separated next owner view fresh Fits) (s : σ)
    (schedule : List ι) : AllFit owner view Fits (run next (initial s fresh) schedule) :=
  Machine.run_preserves (step next) _ (fun c i fit => step_allFit separated c i fit) _ schedule
    (fun i => separated.fresh_fits i _)

end Separation

section Sequential

variable (fresh : ℓ) (Done : ℓ → Prop) (bound : ℕ)

/-- Processes that leave `fresh` at their first step, stand still once done, and are done
after at most `bound` steps of their own. -/
structure Terminating : Prop where
  leaves : ∀ i s l, (next i s l).2 ≠ fresh
  stands : ∀ i s l, Done l → next i s l = (s, l)
  ends : ∀ i s, Done (solo next i bound (s, fresh)).2

/-- No process moves while another one of the same owner has started and is not done. -/
def Alone {ω : Type*} (owner : ι → ω) (c : Config σ ι ℓ) (i : ι) : Prop :=
  ∀ j, j ≠ i → owner j = owner i → c.loc j = fresh ∨ Done (c.loc j)

instance decidableAlone {ω : Type*} (owner : ι → ω) [Fintype ι] [DecidableEq ω]
    [∀ l, Decidable (l = fresh)] [DecidablePred Done] (c : Config σ ι ℓ) (i : ι) :
    Decidable (Alone fresh Done owner c i) :=
  inferInstanceAs (Decidable (∀ j, j ≠ i → owner j = owner i → c.loc j = fresh ∨ Done (c.loc j)))

def complete (s : σ) (i : ι) : σ :=
  (solo next i bound (s, fresh)).1

def order {ω : Type*} [DecidableEq ω] (owner : ι → ω) (u : ω) (schedule : List ι) : List ι :=
  (schedule.filter (fun i => owner i = u)).eraseDups

variable {next fresh Done bound}

omit [DecidableEq ι] in
theorem solo_done (terminating : Terminating next fresh Done bound) (i : ι) (n : ℕ) (p : σ × ℓ)
    (done : Done p.2) : solo next i n p = p := by
  induction n with
  | zero => rfl
  | succ n ih => rw [solo_succ, ih, terminating.stands i p.1 p.2 done]

omit [DecidableEq ι] in
theorem solo_complete (terminating : Terminating next fresh Done bound) (i : ι) (n : ℕ) (s : σ)
    (done : Done (solo next i n (s, fresh)).2) :
    (solo next i n (s, fresh)).1 = complete next fresh bound s i := by
  have left := solo_done terminating i bound _ done
  have right := solo_done terminating i n _ (terminating.ends i s)
  rw [← solo_add, Nat.add_comm] at left
  rw [← solo_add] at right
  rw [complete, ← left, ← right]

variable {ω τ : Type*} [DecidableEq ω] {owner : ι → ω} {view : ω → σ → τ}
  {Fits : ι → τ → ℓ → Prop}

theorem order_snoc_other (u : ω) (front : List ι) (i : ι) (foreign : owner i ≠ u) :
    order owner u (front ++ [i]) = order owner u front := by
  simp [order, foreign]

theorem order_snoc_old (front : List ι) (i : ι) (member : i ∈ order owner (owner i) front) :
    order owner (owner i) (front ++ [i]) = order owner (owner i) front := by
  simp only [order, List.mem_eraseDups, List.mem_filter] at member
  simp [order, List.eraseDups_append, List.removeAll, member.1]

theorem order_snoc_new (front : List ι) (i : ι) (absent : i ∉ order owner (owner i) front) :
    order owner (owner i) (front ++ [i]) = order owner (owner i) front ++ [i] := by
  have fresh : i ∉ front := fun member => absent (by simp [order, member])
  simp [order, List.eraseDups_append, List.removeAll, fresh, List.eraseDups_cons]

def Progress (next : ι → σ → ℓ → σ × ℓ) (fresh : ℓ) (Done : ℓ → Prop) (bound : ℕ)
    (owner : ι → ω) (view : ω → σ → τ) (u : ω) (s : σ) (c : Config σ ι ℓ) (started : List ι) :
    Prop :=
  (∀ j, owner j = u → (c.loc j = fresh ↔ j ∉ started)) ∧
  ((started = [] ∧ view u c.shared = view u s) ∨
    ∃ front last n, started = front ++ [last] ∧ owner last = u ∧
      (∀ j ∈ front, j ≠ last → Done (c.loc j)) ∧
      view u c.shared =
        view u (solo next last n (front.foldl (complete next fresh bound) s, fresh)).1 ∧
      c.loc last = (solo next last n (front.foldl (complete next fresh bound) s, fresh)).2)

theorem order_owned (u : ω) (schedule : List ι) (i : ι) (member : i ∈ order owner u schedule) :
    owner i = u := by
  simp only [order, List.mem_eraseDups, List.mem_filter, decide_eq_true_eq] at member
  exact member.2

omit [DecidableEq ι] [DecidableEq ω] in
theorem progress_done (terminating : Terminating next fresh Done bound) (u : ω) (s : σ)
    (c : Config σ ι ℓ) (started : List ι)
    (progress : Progress next fresh Done bound owner view u s c started)
    (rest : ∀ j ∈ started, Done (c.loc j)) :
    view u c.shared = view u (started.foldl (complete next fresh bound) s) := by
  rcases progress.2 with ⟨empty, same⟩ | ⟨front, last, n, split, _, _, shown, stand⟩
  · rw [empty, same]
    rfl
  · have done := rest last (by simp [split])
    rw [stand] at done
    rw [shown, split, List.foldl_append, solo_complete terminating last n _ done]
    rfl

theorem started_step (terminating : Terminating next fresh Done bound) (c : Config σ ι ℓ)
    (before : List ι) (i : ι)
    (started : ∀ j, owner j = owner i → (c.loc j = fresh ↔ j ∉ order owner (owner i) before))
    (j : ι) (same : owner j = owner i) :
    (step next c i).loc j = fresh ↔ j ∉ order owner (owner i) (before ++ [i]) := by
  by_cases self : j = i
  · subst self
    simp only [step_loc_self, terminating.leaves, false_iff, not_not]
    simp [order]
  · rw [step_loc_other next c self, started j same]
    simp [order, self]

theorem progress_again (separated : Separated next owner view fresh Fits)
    (terminating : Terminating next fresh Done bound) (s : σ) (c : Config σ ι ℓ)
    (fit : AllFit owner view Fits c) (before : List ι) (i : ι)
    (member : i ∈ order owner (owner i) before)
    (progress : Progress next fresh Done bound owner view (owner i) s c
      (order owner (owner i) before)) :
    Progress next fresh Done bound owner view (owner i) s (step next c i)
      (order owner (owner i) (before ++ [i])) := by
  refine ⟨started_step terminating c before i progress.1, Or.inr ?_⟩
  rw [order_snoc_old before i member]
  rcases progress.2 with ⟨empty, _⟩ | ⟨front, last, n, split, ownLast, finished, shown, stand⟩
  · rw [empty] at member
    exact absurd member List.not_mem_nil
  · by_cases current : i = last
    · subst current
      refine ⟨front, i, n + 1, split, rfl, ?_, ?_, ?_⟩
      · intro j inside different
        rw [step_loc_other next c different]
        exact finished j inside different
      · rw [solo_succ, step_shared, ← stand]
        exact (separated.own i _ _ _ shown (fit i)).1
      · rw [solo_succ, step_loc_self, ← stand]
        exact (separated.own i _ _ _ shown (fit i)).2
    · -- an earlier process of the owner is done: scheduling it again changes nothing
      have inside : i ∈ front := by
        rw [split] at member
        simpa [current] using member
      have stays := terminating.stands i c.shared (c.loc i) (finished i inside current)
      refine ⟨front, last, n, split, ownLast, ?_, ?_, ?_⟩
      · intro j member' different
        by_cases self : j = i
        · subst self
          rw [step_loc_self, stays]
          exact finished j member' different
        · rw [step_loc_other next c self]
          exact finished j member' different
      · rw [step_shared, stays]
        exact shown
      · rw [step_loc_other next c (Ne.symm current)]
        exact stand

theorem progress_start (separated : Separated next owner view fresh Fits)
    (terminating : Terminating next fresh Done bound) (s : σ) (c : Config σ ι ℓ)
    (before : List ι) (i : ι) (absent : i ∉ order owner (owner i) before)
    (others : ∀ j ∈ order owner (owner i) before, j ≠ i → Done (c.loc j))
    (progress : Progress next fresh Done bound owner view (owner i) s c
      (order owner (owner i) before)) :
    Progress next fresh Done bound owner view (owner i) s (step next c i)
      (order owner (owner i) (before ++ [i])) := by
  refine ⟨started_step terminating c before i progress.1, Or.inr ?_⟩
  rw [order_snoc_new before i absent]
  have idle := (progress.1 i rfl).mpr absent
  have sofar := progress_done terminating _ s c _ progress (fun j inside =>
    others j inside (fun same => absent (same ▸ inside)))
  refine ⟨order owner (owner i) before, i, 1, rfl, rfl, ?_, ?_, ?_⟩
  · intro j inside different
    rw [step_loc_other next c different]
    exact others j inside different
  · rw [step_shared, idle]
    exact (separated.own i _ _ fresh sofar (separated.fresh_fits i _)).1
  · rw [step_loc_self, idle]
    exact (separated.own i _ _ fresh sofar (separated.fresh_fits i _)).2

theorem progress_foreign (separated : Separated next owner view fresh Fits) (u : ω) (s : σ)
    (c : Config σ ι ℓ) (fit : AllFit owner view Fits c) (before : List ι) (i : ι)
    (owned : owner i ≠ u)
    (progress : Progress next fresh Done bound owner view u s c (order owner u before)) :
    Progress next fresh Done bound owner view u s (step next c i)
      (order owner u (before ++ [i])) := by
  have foreign : ∀ j, owner j = u → j ≠ i := by
    intro j same equal
    exact owned (equal ▸ same)
  have unseen := step_view separated c i fit u (Ne.symm owned)
  rw [order_snoc_other u before i owned]
  constructor
  · intro j same
    rw [step_loc_other next c (foreign j same)]
    exact progress.1 j same
  · rcases progress.2 with ⟨empty, same⟩ | ⟨front, last, n, split, ownLast, finished, shown, stand⟩
    · exact Or.inl ⟨empty, by rw [unseen, same]⟩
    · refine Or.inr ⟨front, last, n, split, ownLast, ?_, ?_, ?_⟩
      · intro j inside different
        have ownJ : owner j = u := order_owned u before j (by rw [split]; simp [inside])
        rw [step_loc_other next c (foreign j ownJ)]
        exact finished j inside different
      · rw [unseen, shown]
      · rw [step_loc_other next c (foreign last ownLast)]
        exact stand

theorem progress_step (separated : Separated next owner view fresh Fits)
    (terminating : Terminating next fresh Done bound) (u : ω) (s : σ) (c : Config σ ι ℓ)
    (fit : AllFit owner view Fits c) (before : List ι) (i : ι) (alone : Alone fresh Done owner c i)
    (progress : Progress next fresh Done bound owner view u s c (order owner u before)) :
    Progress next fresh Done bound owner view u s (step next c i)
      (order owner u (before ++ [i])) := by
  by_cases owned : owner i = u
  · subst owned
    by_cases member : i ∈ order owner (owner i) before
    · exact progress_again separated terminating s c fit before i member progress
    · apply progress_start separated terminating s c before i member _ progress
      intro j inside different
      rcases alone j different (order_owned _ _ _ inside) with idle | done
      · exact absurd inside ((progress.1 j (order_owned _ _ _ inside)).mp idle)
      · exact done
  · exact progress_foreign separated u s c fit before i owned progress

theorem progress_run (separated : Separated next owner view fresh Fits)
    (terminating : Terminating next fresh Done bound) (u : ω) (s : σ) (schedule : List ι)
    (alone : Machine.Along (step next) (Alone fresh Done owner) (initial s fresh) schedule) :
    Progress next fresh Done bound owner view u s (run next (initial s fresh) schedule)
      (order owner u schedule) := by
  induction schedule using List.reverseRecOn with
  | nil => exact ⟨fun j _ => by simp [initial, order], Or.inl ⟨rfl, rfl⟩⟩
  | append_singleton front i ih =>
      rw [Machine.along_append] at alone
      rw [run_snoc]
      exact progress_step separated terminating u s _ (run_allFit separated s front) front i
        alone.2.1 (ih alone.1)

/-- Separated owners are independent: each one sees the result of its own processes, run one
after the other in the order in which they started, from the initial shared state. -/
theorem independent (separated : Separated next owner view fresh Fits)
    (terminating : Terminating next fresh Done bound) (u : ω) (s : σ) (schedule : List ι)
    (alone : Machine.Along (step next) (Alone fresh Done owner) (initial s fresh) schedule)
    (rest : ∀ i, (run next (initial s fresh) schedule).loc i = fresh ∨
      Done ((run next (initial s fresh) schedule).loc i)) :
    view u (run next (initial s fresh) schedule).shared =
      view u ((order owner u schedule).foldl (complete next fresh bound) s) := by
  have progress := progress_run (u := u) separated terminating s schedule alone
  apply progress_done terminating u s _ _ progress
  intro j member
  rcases rest j with idle | done
  · exact absurd member ((progress.1 j (order_owned u schedule j member)).mp idle)
  · exact done

end Sequential

end EWallet.Interleaving
