import EWallet.Facture.Appariement

namespace EWallet.Facture

open Firestore

variable {ι : Type*} [DecidableEq ι] (persoId restoId : ι → String)

def SansDecouvert (db : Database) : Prop := ∀ u b, balance? db u = some b → b.Nonneg

/-- The account a run is about to debit still holds the balance the run has read, and the price
has an opposite, as all numbers but the least integer of 64 bits have. -/
def Etape.SurLecture (compte : Option Number) : Etape → Prop
  | .valide b p _ => compte = some b ∧ p.HasOpposite
  | _ => True

instance (compte : Option Number) (e : Etape) : Decidable (e.SurLecture compte) :=
  match e with
  | .valide b p _ => inferInstanceAs (Decidable (compte = some b ∧ p.HasOpposite))
  | .debut => isTrue trivial
  | .balanceLue _ => isTrue trivial
  | .debite _ _ _ => isTrue trivial
  | .solde _ _ _ => isTrue trivial
  | .refuse => isTrue trivial
  | .erreur _ => isTrue trivial

def DebitSurLecture (c : Systeme ι) (i : ι) : Prop :=
  (c.loc i).SurLecture (balance? c.shared (persoId i))

instance (c : Systeme ι) (i : ι) : Decidable (DebitSurLecture persoId c i) :=
  inferInstanceAs (Decidable ((c.loc i).SurLecture (balance? c.shared (persoId i))))

/-- A run that is about to debit has found the balance it has read to cover the price. -/
def Couverte (c : Systeme ι) : Prop := ∀ i b p id, c.loc i = .valide b p id → (b - p).Nonneg

variable {persoId restoId}

theorem pas_couverte {persoId restoId : String} {db db' : Database} {e e' : Etape}
    (step : Pas persoId restoId db e db' e') (b p : Number) (id : String)
    (valid : e' = .valide b p id) : (b - p).Nonneg ∨ e = .valide b p id := by
  cases step with
  | selection b' p' id' data first price enough =>
      cases valid
      exact Or.inl enough
  | repos e done => exact Or.inr valid
  | lecture data found => cases valid
  | refus b' p' id' data first price short => cases valid
  | debit b' p' id' present => cases valid
  | reglement b' p' id' present => cases valid
  | exception avant going before => cases valid
  | echecDebit b' p' id' absent => cases valid
  | echecReglement b' p' id' absent => cases valid

theorem couverte_pas (c : Systeme ι) (i : ι) (covered : Couverte c) :
    Couverte (pas persoId restoId c i) := by
  obtain ⟨db', e', result, step⟩ := pas_cases persoId restoId c i
  rw [result]
  refine (Function.forall_update_iff c.loc
    (fun _ e => ∀ b p id, e = .valide b p id → (b - p).Nonneg)).mpr ⟨?_, fun j _ => covered j⟩
  intro b p id valid
  rcases pas_couverte step b p id valid with enough | before
  · exact enough
  · exact covered i b p id before

theorem sans_decouvert_debit (db : Database) (persoId : String) (b p : Number)
    (here : balance? db persoId = some b) (opposite : p.HasOpposite) (enough : (b - p).Nonneg)
    (solvent : SansDecouvert db) : SansDecouvert (debit db persoId p) := by
  intro u reste holds
  rw [balance?_debit db persoId u p (by rw [here]; rfl)] at holds
  by_cases own : u = persoId
  · rw [if_pos own, own, here, Option.map_some, Option.some.injEq] at holds
    rw [← holds]
    exact b.nonneg_decrease p (solvent persoId b here) opposite enough
  · rw [if_neg own] at holds
    exact solvent u reste holds

theorem sans_decouvert_pas (c : Systeme ι) (i : ι) (covered : Couverte c)
    (solvent : SansDecouvert c.shared) (sur : DebitSurLecture persoId c i) :
    SansDecouvert (pas persoId restoId c i).shared := by
  obtain ⟨db', e', result, step⟩ := pas_cases persoId restoId c i
  rw [result]
  rw [DebitSurLecture] at sur
  generalize at_ : c.loc i = e at step sur
  cases step with
  | debit b p id present =>
      exact sans_decouvert_debit c.shared (persoId i) b p sur.1 sur.2 (covered i b p id at_) solvent
  | reglement b p id present =>
      intro u reste holds
      rw [balance?_reglement] at holds
      exact solvent u reste holds
  | lecture data found => exact solvent
  | selection b p id data first price enough => exact solvent
  | refus b p id data first price short => exact solvent
  | exception avant going before => exact solvent
  | echecDebit b p id absent => exact solvent
  | echecReglement b p id absent => exact solvent
  | repos e done => exact solvent

/-- From a store without overdraft, no state of an interleaving shows one when each debit of it
finds on the account the balance its run has read. -/
theorem no_overdraft_when_balance_still_read (persoId restoId : ι → String) (db : Database)
    (ordre : List ι) (solvent : SansDecouvert db)
    (sur : Machine.Along (pas persoId restoId) (DebitSurLecture persoId)
      (Interleaving.initial db .debut) ordre) :
    ∀ front back, ordre = front ++ back →
      SansDecouvert (executer persoId restoId db front).shared := by
  intro front back split
  rw [split, Machine.along_append] at sur
  have kept := Machine.run_invariant (pas persoId restoId)
    (fun c : Systeme ι => Couverte c ∧ SansDecouvert c.shared) (DebitSurLecture persoId)
    (fun c i held sur => ⟨couverte_pas c i held.1, sans_decouvert_pas c i held.1 held.2 sur⟩)
    (Interleaving.initial db .debut) front ⟨fun i b p id valid => (by cases valid), solvent⟩ sur.1
  exact kept.2

section DeuxFactures

def baseDeuxRestos : Database
  | ["utilisateurs"] => OrderedMap.single "u" (Doc.ofFields [("balance", .number (.int 100))])
  | ["restaurants", "R", "transactions"] =>
      OrderedMap.single "f" (Doc.ofFields [("id du client", .string "u"),
        ("etat", .string "Non soldée"), ("prix", .number (.int 80))])
  | ["restaurants", "S", "transactions"] =>
      OrderedMap.single "g" (Doc.ofFields [("id du client", .string "u"),
        ("etat", .string "Non soldée"), ("prix", .number (.int 70))])
  | _ => OrderedMap.empty

def deuxRestos : Fin 2 → String
  | 0 => "R"
  | 1 => "S"

theorem baseDeuxRestos_solvent : SansDecouvert baseDeuxRestos := by
  intro u b holds
  by_cases known : u = "u"
  · subst known
    have value : balance? baseDeuxRestos "u" = some (.int 100) := by decide +kernel
    rw [value, Option.some.injEq] at holds
    rw [← holds]
    decide
  · have absent : baseDeuxRestos.doc? utilisateurs u = none := by
      simp [Database.doc?, utilisateurs, baseDeuxRestos, known]
    rw [balance?, absent] at holds
    cases holds

/-- Both runs read 100 before either debits: the account ends at -50. -/
theorem two_invoices_overdraw :
    SansDecouvert baseDeuxRestos ∧
      balance? (executer (fun _ => "u") deuxRestos baseDeuxRestos
        [0, 1, 0, 1, 0, 1, 0, 1]).shared "u" = some (.int (-50)) ∧
      ¬ SansDecouvert (executer (fun _ => "u") deuxRestos baseDeuxRestos
        [0, 1, 0, 1, 0, 1, 0, 1]).shared := by
  have final : balance? (executer (fun _ => "u") deuxRestos baseDeuxRestos
      [0, 1, 0, 1, 0, 1, 0, 1]).shared "u" = some (.int (-50)) := by decide +kernel
  refine ⟨baseDeuxRestos_solvent, final, fun solvent => ?_⟩
  exact absurd (solvent "u" (.int (-50)) final) (by decide)

theorem no_overdraft_one_after_the_other :
    balance? (executer (fun _ => "u") deuxRestos baseDeuxRestos [0, 0, 0, 1, 0, 1]).shared "u" =
        some (.int 20) ∧
      (executer (fun _ => "u") deuxRestos baseDeuxRestos [0, 0, 0, 1, 0, 1]).loc 1 = .refuse ∧
      SansDecouvert (executer (fun _ => "u") deuxRestos baseDeuxRestos [0, 0, 0, 1, 0, 1]).shared :=
  ⟨by decide +kernel, by rfl,
    no_overdraft_when_balance_still_read _ _ _ _ baseDeuxRestos_solvent (by decide +kernel)
      [0, 0, 0, 1, 0, 1] [] (List.append_nil _).symm⟩

end DeuxFactures

end EWallet.Facture
