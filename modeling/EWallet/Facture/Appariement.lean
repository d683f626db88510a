import EWallet.Facture.Comptes

namespace EWallet.Facture

open Firestore

theorem pas_preleve {persoId restoId : String} {db db' : Database} {e e' : Etape}
    (step : Pas persoId restoId db e db' e') (p : Number × String) (taken : e.preleve = some p) :
    e'.preleve = some p := by
  cases step with
  | lecture data found => cases taken
  | selection b p id data first price enough => cases taken
  | refus b p id data first price short => cases taken
  | debit b p id present => cases taken
  | reglement b p id present => exact taken
  | exception avant going before => exact taken
  | echecDebit b p id absent => cases taken
  | echecReglement b p id absent => exact taken
  | repos e done => exact taken

theorem pas_debite {persoId restoId : String} {db db' : Database} {e e' : Etape}
    (step : Pas persoId restoId db e db' e') (untaken : e.preleve = none) (p : Number)
    (id : String) (taken : e'.preleve = some (p, id)) :
    db' = debit db persoId p ∧ ∃ b, e = .valide b p id := by
  cases step with
  | lecture data found => cases taken
  | selection b p id data first price enough => cases taken
  | refus b p id data first price short => cases taken
  | debit b p id present =>
      cases taken
      exact ⟨rfl, b, rfl⟩
  | reglement b p id present => cases untaken
  | exception avant going before =>
      rw [Etape.preleve, untaken] at taken
      cases taken
  | echecDebit b p id absent => cases taken
  | echecReglement b p id absent => cases untaken
  | repos e done =>
      rw [untaken] at taken
      cases taken

theorem pas_soldee {persoId restoId : String} {db db' : Database} {e e' : Etape}
    (step : Pas persoId restoId db e db' e') (f : FactureRef) (paid : Soldee db f) :
    Soldee db' f := by
  cases step with
  | lecture data found => exact paid
  | selection b p id data first price enough => exact paid
  | refus b p id data first price short => exact paid
  | debit b p id present =>
      rw [soldee_debit]
      exact paid
  | reglement b p id present =>
      rw [soldee_reglement _ _ _ present]
      exact Or.inr paid
  | exception avant going before => exact paid
  | echecDebit b p id absent => exact paid
  | echecReglement b p id absent => exact paid
  | repos e done => exact paid

theorem pas_solde {persoId restoId : String} {db db' : Database} {e e' : Etape}
    (step : Pas persoId restoId db e db' e') (f : FactureRef) (unpaid : ¬ Soldee db f)
    (paid : Soldee db' f) :
    ∃ b p, e = .debite b p f.id ∧ e' = .solde b p f.id ∧ restoId = f.resto := by
  cases step with
  | lecture data found => exact absurd paid unpaid
  | selection b p id data first price enough => exact absurd paid unpaid
  | refus b p id data first price short => exact absurd paid unpaid
  | debit b p id present =>
      rw [soldee_debit] at paid
      exact absurd paid unpaid
  | reglement b p id present =>
      rw [soldee_reglement _ _ _ present] at paid
      rcases paid with rfl | before
      · exact ⟨b, p, rfl, rfl, rfl⟩
      · exact absurd before unpaid
  | exception avant going before => exact absurd paid unpaid
  | echecDebit b p id absent => exact absurd paid unpaid
  | echecReglement b p id absent => exact absurd paid unpaid
  | repos e done => exact absurd paid unpaid

variable {ι : Type*} [DecidableEq ι] (persoId restoId : ι → String)

/-- After the steps `avant`, the step of run `i` is the debit of `p` for invoice `f`. -/
structure DebitEn (db : Database) (avant : List ι) (i : ι) (f : FactureRef) (p : Number) :
    Prop where
  resto : restoId i = f.resto
  pret : ((executer persoId restoId db avant).loc i).preleve = none
  applique : (executer persoId restoId db (avant ++ [i])).shared =
    debit (executer persoId restoId db avant).shared (persoId i) p
  preleve : ((executer persoId restoId db (avant ++ [i])).loc i).preleve = some (p, f.id)

variable {persoId restoId}

theorem preleve_loc (c : Systeme ι) (i j : ι) (p : Number × String)
    (taken : (c.loc i).preleve = some p) :
    ((pas persoId restoId c j).loc i).preleve = some p := by
  obtain ⟨db', e', result, step⟩ := pas_cases persoId restoId c j
  rw [result]
  by_cases same : i = j
  · subst same
    simp only [Function.update_self]
    exact pas_preleve step p taken
  · simp only [Function.update_of_ne same]
    exact taken

theorem debit_passe (db : Database) (ordre : List ι) (i : ι) (p : Number) (id : String)
    (taken : ((executer persoId restoId db ordre).loc i).preleve = some (p, id)) :
    ∃ avant apres, ordre = avant ++ i :: apres ∧
      DebitEn persoId restoId db avant i ⟨restoId i, id⟩ p := by
  induction ordre using List.reverseRecOn with
  | nil => cases taken
  | append_singleton front j ih =>
      cases before : ((executer persoId restoId db front).loc i).preleve with
      | some q =>
          have kept : ((executer persoId restoId db (front ++ [j])).loc i).preleve = some q := by
            rw [executer_snoc]
            exact preleve_loc _ i j q before
          rw [taken] at kept
          obtain ⟨avant, apres, split, at_⟩ := ih (by rw [before, kept])
          exact ⟨avant, apres ++ [j], by simp [split], at_⟩
      | none =>
          obtain ⟨db', e', result, step⟩ := pas_cases persoId restoId
            (executer persoId restoId db front) j
          by_cases same : i = j
          · subst same
            refine ⟨front, [], rfl, rfl, before, ?_, taken⟩
            rw [executer_snoc, result] at taken
            simp only [Function.update_self] at taken
            rw [executer_snoc, result]
            exact (pas_debite step before p id taken).1
          · rw [executer_snoc, result] at taken
            simp only [Function.update_of_ne same, before] at taken
            cases taken

theorem soldee_reste (db : Database) (front back : List ι) (f : FactureRef)
    (paid : Soldee (executer persoId restoId db front).shared f) :
    Soldee (executer persoId restoId db (front ++ back)).shared f := by
  rw [executer, Interleaving.run_append]
  apply Machine.run_preserves (pas persoId restoId) (fun c => Soldee c.shared f) _ _ back paid
  intro c j held
  obtain ⟨db', e', result, step⟩ := pas_cases persoId restoId c j
  rw [result]
  exact pas_soldee step f held

theorem reglee_debitee (db : Database) (ordre : List ι) (f : FactureRef)
    (regle : Reglee db (executer persoId restoId db ordre).shared f) :
    ∃ i p, ((executer persoId restoId db ordre).loc i).preleve = some (p, f.id) ∧
      ∃ avant apres, ordre = avant ++ i :: apres ∧ DebitEn persoId restoId db avant i f p ∧
        ¬ Soldee (executer persoId restoId db (avant ++ [i])).shared f := by
  induction ordre using List.reverseRecOn with
  | nil => exact absurd regle.1 (soldee_excludes regle.2)
  | append_singleton front j ih =>
      by_cases before : Soldee (executer persoId restoId db front).shared f
      · obtain ⟨i, p, taken, avant, apres, split, at_, unpaid⟩ := ih ⟨regle.1, before⟩
        refine ⟨i, p, ?_, avant, apres ++ [j], by simp [split], at_, unpaid⟩
        rw [executer_snoc]
        exact preleve_loc _ i j _ taken
      · obtain ⟨db', e', result, step⟩ := pas_cases persoId restoId
          (executer persoId restoId db front) j
        have after := regle.2
        rw [executer_snoc, result] at after
        obtain ⟨b, p, from_, to_, resto⟩ := pas_solde step f before after
        have taken : ((executer persoId restoId db front).loc j).preleve = some (p, f.id) := by
          rw [from_]
          rfl
        obtain ⟨avant, apres, split, at_⟩ := debit_passe db front j p f.id taken
        rw [resto] at at_
        refine ⟨j, p, ?_, avant, apres ++ [j], by simp [split], at_, fun early => before ?_⟩
        · rw [executer_snoc]
          exact preleve_loc _ j j _ taken
        · rw [split]
          have later := soldee_reste db (avant ++ [j]) apres f early
          simpa using later

theorem balance_entiere (db : Database) (ordre : List ι) (u : String) (b : Int) (prixs : List Int)
    (wallet : balance? db u = some (.int b))
    (listed : journal persoId restoId db ordre u = prixs.map .int)
    (room : |b| + (prixs.map abs).sum < 2 ^ 63) :
    balance? (executer persoId restoId db ordre).shared u = some (.int (b - prixs.sum)) := by
  rw [balance_executer, wallet, listed, Option.map_some, Number.foldl_decrease_int b prixs room]

/-- No debit is lost, and no invoice is settled without a debit of its own: at every point of
every interleaving, runs that have stopped for good included, each account is what it was less the
debits of its user's runs, one after the other as the store computes them, and the settled
invoices are matched one to one with runs that debited, before the settlement, the price from the
client's account. -/
theorem settled_invoices_debited (persoId restoId : ι → String) (db : Database)
    (ordre : List ι) :
    (∀ u, balance? (executer persoId restoId db ordre).shared u = (balance? db u).map
      (fun b => (journal persoId restoId db ordre u).foldl Number.decrease b)) ∧
    (∀ u b (prixs : List Int), balance? db u = some (.int b) →
      journal persoId restoId db ordre u = prixs.map .int → |b| + (prixs.map abs).sum < 2 ^ 63 →
      balance? (executer persoId restoId db ordre).shared u = some (.int (b - prixs.sum))) ∧
    ∃ debiteur : {f // Reglee db (executer persoId restoId db ordre).shared f} → ι,
      Function.Injective debiteur ∧
      ∀ f, client? db f.1 = some (persoId (debiteur f)) ∧
        ∃ p, prix? db f.1 = some p ∧
          ∃ avant apres, ordre = avant ++ debiteur f :: apres ∧
            DebitEn persoId restoId db avant (debiteur f) f.1 p ∧
            ¬ Soldee (executer persoId restoId db (avant ++ [debiteur f])).shared f.1 := by
  refine ⟨balance_executer db ordre, fun u b prixs => balance_entiere db ordre u b prixs, ?_⟩
  have matching := fun f : {f // Reglee db (executer persoId restoId db ordre).shared f} =>
    reglee_debitee db ordre f.1 f.2
  choose debiteur p taken avant apres split at_ unpaid using matching
  refine ⟨debiteur, ?_, ?_⟩
  · intro f g same
    have restos : f.1.resto = g.1.resto := by
      rw [← (at_ f).resto, ← (at_ g).resto, same]
    have ids : some (p f, f.1.id) = some (p g, g.1.id) := by
      rw [← taken f, ← taken g, same]
    apply Subtype.ext
    cases f with
    | mk f regle =>
        cases g with
        | mk g regle' =>
            cases f
            cases g
            simp_all
  · intro f
    have picked := Etape.choix_of_preleve _ _ (taken f)
    have coherente := (((invariant_executer db ordre).locale (debiteur f)).choisie _ _ picked)
    rw [(at_ f).resto] at coherente
    exact ⟨coherente.2.1, p f, coherente.2.2.1, avant f, apres f, split f, at_ f, unpaid f⟩

def baseDixieme : Database
  | ["utilisateurs"] => OrderedMap.single "u" (Doc.ofFields [("balance", .number (.int 100))])
  | ["restaurants", "R", "transactions"] =>
      OrderedMap.single "f" (Doc.ofFields [("id du client", .string "u"),
        ("etat", .string "Non soldée"), ("prix", .number (.double (.ofRat (1 / 10))))])
  | _ => OrderedMap.empty

/-- One run pays it: the account holds the double nearest to the difference, which is not the
difference. -/
theorem tenth_not_taken_exactly :
    let c := executer (fun _ : Unit => "u") (fun _ => "R") baseDixieme [(), (), (), ()]
    balance? c.shared "u" = some (.double (.ofRat (999 / 10))) ∧
      (balance? c.shared "u").map Number.toRat ≠ (balance? baseDixieme "u").map
        (fun b => b.toRat - ((journal (fun _ => "u") (fun _ => "R") baseDixieme
          [(), (), (), ()] "u").map Number.toRat).sum) := by
  intro c
  have left : balance? c.shared "u" = some (.double (.ofRat (999 / 10))) := by decide +kernel
  exact ⟨left, by decide +kernel⟩

end EWallet.Facture
