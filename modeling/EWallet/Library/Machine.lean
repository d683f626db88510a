import Mathlib.Logic.Function.Basic
import Mathlib.Algebra.BigOperators.Group.List.Basic

namespace EWallet.Machine

variable {σ α : Type*} (step : σ → α → σ)

def run (s : σ) (acts : List α) : σ :=
  acts.foldl step s

/-- Every step of the run is taken from a state, and with an action, that `P` accepts. -/
def Along (P : σ → α → Prop) : σ → List α → Prop
  | _, [] => True
  | s, act :: rest => P s act ∧ Along P (step s act) rest

instance decidableAlong (P : σ → α → Prop) [∀ s act, Decidable (P s act)] (s : σ)
    (acts : List α) : Decidable (Along step P s acts) :=
  match acts with
  | [] => isTrue trivial
  | act :: rest =>
      have := decidableAlong P (step s act) rest
      inferInstanceAs (Decidable (P s act ∧ Along step P (step s act) rest))

/-- Every state of the run, the first and the last included, satisfies `Q`. -/
def Always (Q : σ → Prop) : σ → List α → Prop
  | s, [] => Q s
  | s, act :: rest => Q s ∧ Always Q (step s act) rest

@[simp] theorem run_nil (s : σ) : run step s [] = s := rfl

@[simp] theorem run_cons (s : σ) (act : α) (rest : List α) :
    run step s (act :: rest) = run step (step s act) rest := rfl

theorem run_append (s : σ) (front back : List α) :
    run step s (front ++ back) = run step (run step s front) back := by
  simp only [run, List.foldl_append]

theorem run_snoc (s : σ) (front : List α) (act : α) :
    run step s (front ++ [act]) = step (run step s front) act := by
  rw [run_append]
  rfl

theorem along_append (P : σ → α → Prop) (s : σ) (front back : List α) :
    Along step P s (front ++ back) ↔
      Along step P s front ∧ Along step P (run step s front) back := by
  induction front generalizing s with
  | nil => simp [Along]
  | cons act rest ih => simp only [List.cons_append, Along, ih, run_cons, and_assoc]

theorem along_true (P : σ → α → Prop) (all : ∀ s act, P s act) (s : σ) (acts : List α) :
    Along step P s acts := by
  induction acts generalizing s with
  | nil => trivial
  | cons act rest ih => exact ⟨all s act, ih (step s act)⟩

theorem along_congr_under (Inv : σ → Prop) (P Q : σ → α → Prop)
    (keep : ∀ s act, Inv s → Inv (step s act)) (same : ∀ s act, Inv s → (P s act ↔ Q s act))
    (s : σ) (acts : List α) (start : Inv s) : Along step P s acts ↔ Along step Q s acts := by
  induction acts generalizing s with
  | nil => exact Iff.rfl
  | cons act rest ih => exact and_congr (same s act start) (ih (step s act) (keep s act start))

theorem along_congr (P Q : σ → α → Prop) (same : ∀ s act, P s act ↔ Q s act) (s : σ)
    (acts : List α) : Along step P s acts ↔ Along step Q s acts :=
  along_congr_under step (fun _ => True) P Q (fun _ _ _ => trivial) (fun s act _ => same s act) s
    acts trivial

/-- The induction over a run, done once: what every accepted step keeps, the run keeps. -/
theorem run_invariant (Inv : σ → Prop) (P : σ → α → Prop)
    (keep : ∀ s act, Inv s → P s act → Inv (step s act))
    (s : σ) (acts : List α) (start : Inv s) (along : Along step P s acts) :
    Inv (run step s acts) := by
  induction acts generalizing s with
  | nil => exact start
  | cons act rest ih => exact ih (step s act) (keep s act start along.1) along.2

theorem run_preserves (Inv : σ → Prop) (keep : ∀ s act, Inv s → Inv (step s act))
    (s : σ) (acts : List α) (start : Inv s) : Inv (run step s acts) :=
  run_invariant step Inv (fun _ _ => True) (fun s act inv _ => keep s act inv) s acts start
    (along_true step _ (fun _ _ => trivial) s acts)

theorem always_last (Q : σ → Prop) (s : σ) (acts : List α) (always : Always step Q s acts) :
    Q (run step s acts) := by
  induction acts generalizing s with
  | nil => exact always
  | cons act rest ih => exact ih (step s act) always.2

theorem always_of_last (Inv Q : σ → Prop) (keep : ∀ s act, Inv s → Inv (step s act))
    (back : ∀ s act, Inv s → Q (step s act) → Q s)
    (s : σ) (acts : List α) (start : Inv s) (last : Q (run step s acts)) :
    Always step Q s acts := by
  induction acts generalizing s with
  | nil => exact last
  | cons act rest ih =>
      have tail := ih (step s act) (keep s act start) last
      refine ⟨back s act start ?_, tail⟩
      cases rest with
      | nil => exact tail
      | cons next others => exact tail.1

theorem always_append (Q : σ → Prop) (s : σ) (front back : List α)
    (always : Always step Q s (front ++ back)) : Q (run step s front) := by
  induction front generalizing s with
  | nil =>
      cases back with
      | nil => exact always
      | cons act rest => exact always.1
  | cons act rest ih => exact ih (step s act) always.2

theorem always_of_prefixes (Q : σ → Prop) (s : σ) (acts : List α)
    (everywhere : ∀ front back, acts = front ++ back → Q (run step s front)) :
    Always step Q s acts := by
  induction acts generalizing s with
  | nil => exact everywhere [] [] rfl
  | cons act rest ih =>
      refine ⟨everywhere [] (act :: rest) rfl, ih (step s act) ?_⟩
      intro front back split
      exact everywhere (act :: front) back (by rw [split, List.cons_append])

theorem always_iff_prefixes (Q : σ → Prop) (s : σ) (acts : List α) :
    Always step Q s acts ↔ ∀ front back, acts = front ++ back → Q (run step s front) := by
  constructor
  · intro always front back split
    rw [split] at always
    exact always_append step Q s front back always
  · exact always_of_prefixes step Q s acts

theorem along_iff_prefixes (P : σ → α → Prop) (s : σ) (acts : List α) :
    Along step P s acts ↔
      ∀ front act back, acts = front ++ act :: back → P (run step s front) act := by
  constructor
  · intro along front act back split
    rw [split, along_append] at along
    exact along.2.1
  · intro everywhere
    induction acts generalizing s with
    | nil => trivial
    | cons act rest ih =>
        refine ⟨everywhere [] act rest rfl, ih (step s act) ?_⟩
        intro front next back split
        exact everywhere (act :: front) next back (by rw [split, List.cons_append])

theorem prefixes_invariant (Inv Q : σ → Prop)
    (keep : ∀ s act, Inv s → Q (step s act) → Inv (step s act)) (s : σ) (acts : List α)
    (start : Inv s) (everywhere : ∀ front back, acts = front ++ back → Q (run step s front))
    (front back : List α) (split : acts = front ++ back) : Inv (run step s front) := by
  apply run_invariant step Inv (fun s act => Q (step s act)) keep s front start
  rw [along_iff_prefixes]
  intro before act after cut
  rw [← run_snoc step]
  exact everywhere (before ++ [act]) (after ++ back) (by simp [split, cut])

section Projection

variable {τ : Type*} (step' : τ → α → τ) (f : σ → τ)

theorem run_project (commutes : ∀ s act, f (step s act) = step' (f s) act) (s : σ)
    (acts : List α) : f (run step s acts) = run step' (f s) acts := by
  induction acts generalizing s with
  | nil => rfl
  | cons act rest ih => rw [run_cons, run_cons, ih, commutes]

theorem along_project (commutes : ∀ s act, f (step s act) = step' (f s) act)
    (P : τ → α → Prop) (s : σ) (acts : List α) :
    Along step (fun s act => P (f s) act) s acts ↔ Along step' P (f s) acts := by
  induction acts generalizing s with
  | nil => exact Iff.rfl
  | cons act rest ih =>
      have tail := ih (step s act)
      rw [commutes] at tail
      exact and_congr Iff.rfl tail

end Projection

section Simulation

variable {τ β : Type*} (step' : τ → β → τ) (label : σ → α → β)

def trace : σ → List α → List β
  | _, [] => []
  | s, act :: rest => label s act :: trace (step s act) rest

def output (out : σ → α → List β) (s : σ) (acts : List α) : List β :=
  (trace step out s acts).flatten

theorem output_append (out : σ → α → List β) (s : σ) (front back : List α) :
    output step out s (front ++ back) =
      output step out s front ++ output step out (run step s front) back := by
  induction front generalizing s with
  | nil => rfl
  | cons act rest ih =>
      have tail := ih (step s act)
      simp only [output, List.cons_append, trace, List.flatten_cons, run_cons] at tail ⊢
      rw [tail, List.append_assoc]

theorem mem_output_iff (out : σ → α → List β) (s : σ) (acts : List α) (b : β) :
    b ∈ output step out s acts ↔
      ∃ front act back, acts = front ++ act :: back ∧ b ∈ out (run step s front) act := by
  constructor
  · intro member
    induction acts generalizing s with
    | nil => cases member
    | cons act rest ih =>
        rcases List.mem_append.mp member with now | later
        · exact ⟨[], act, rest, rfl, now⟩
        · obtain ⟨front, next, back, split, given⟩ := ih (step s act) later
          exact ⟨act :: front, next, back, by rw [split, List.cons_append], given⟩
  · rintro ⟨front, act, back, rfl, given⟩
    rw [output_append]
    exact List.mem_append_right _ (List.mem_append_left _ given)

/-- The rule of ledgers: a measure that every step changes by what it gives out has been changed,
at the end of a run, by all that the run gave out. -/
theorem run_folds {M : Type*} (Inv : σ → Prop) (measure : σ → M) (out : σ → α → List β)
    (op : M → β → M) (keep : ∀ s act, Inv s → Inv (step s act))
    (each : ∀ s act, Inv s → measure (step s act) = (out s act).foldl op (measure s))
    (s : σ) (acts : List α) (start : Inv s) :
    measure (run step s acts) = (output step out s acts).foldl op (measure s) := by
  induction acts generalizing s with
  | nil => rfl
  | cons act rest ih =>
      calc
        measure (run step (step s act) rest)
            = (output step out (step s act) rest).foldl op (measure (step s act)) :=
          ih (step s act) (keep s act start)
        _ = (out s act ++ output step out (step s act) rest).foldl op (measure s) := by
          rw [each s act start, List.foldl_append]

/-- The simulation rule: a relation to another machine that every accepted step keeps holds at the
end of a run and of what it was seen to do. -/
theorem run_simulates (R : σ → τ → Prop) (P : σ → α → Prop)
    (keep : ∀ s t act, R s t → P s act → R (step s act) (step' t (label s act)))
    (s : σ) (t : τ) (acts : List α) (start : R s t) (along : Along step P s acts) :
    R (run step s acts) (run step' t (trace step label s acts)) := by
  induction acts generalizing s t with
  | nil => exact start
  | cons act rest ih => exact ih _ _ (keep s t act start along.1) along.2

/-- The rule of accounts: what every step gains and loses of a measure is what it has gained and
lost at the end of a run. -/
theorem run_balance {M : Type*} [AddCommMonoid M] (Inv : σ → Prop) (measure : σ → M)
    (gain loss : σ → α → M) (keep : ∀ s act, Inv s → Inv (step s act))
    (balance : ∀ s act, Inv s → measure (step s act) + loss s act = measure s + gain s act)
    (s : σ) (acts : List α) (start : Inv s) :
    measure (run step s acts) + (trace step loss s acts).sum =
      measure s + (trace step gain s acts).sum := by
  induction acts generalizing s with
  | nil => rfl
  | cons act rest ih =>
      calc
        measure (run step (step s act) rest) +
              (loss s act + (trace step loss (step s act) rest).sum)
            = measure (run step (step s act) rest) + (trace step loss (step s act) rest).sum +
                loss s act := by rw [add_assoc, add_comm (loss s act)]
        _ = measure (step s act) + (trace step gain (step s act) rest).sum + loss s act := by
          rw [ih (step s act) (keep s act start)]
        _ = measure (step s act) + loss s act + (trace step gain (step s act) rest).sum := by
          rw [add_right_comm]
        _ = measure s + (gain s act + (trace step gain (step s act) rest).sum) := by
          rw [balance s act start, add_assoc]

end Simulation

/-- The exact condition of a run, from the exact condition of a step: under an invariant that
every step keeps, `Q` survives a step if and only if `P` accepts it. -/
theorem always_iff_along (Inv Q : σ → Prop) (P : σ → α → Prop)
    (keep : ∀ s act, Inv s → Inv (step s act))
    (exact_step : ∀ s act, Inv s → Q s → (Q (step s act) ↔ P s act))
    (s : σ) (acts : List α) (start : Inv s) (holds : Q s) :
    Always step Q s acts ↔ Along step P s acts := by
  induction acts generalizing s with
  | nil => exact iff_of_true holds trivial
  | cons act rest ih =>
      constructor
      · intro always
        have next : Q (step s act) := always_append step Q (step s act) [] rest always.2
        exact ⟨(exact_step s act start holds).mp next,
          (ih (step s act) (keep s act start) next).mp always.2⟩
      · intro along
        have next := (exact_step s act start holds).mpr along.1
        exact ⟨holds, (ih (step s act) (keep s act start) next).mpr along.2⟩

end EWallet.Machine
