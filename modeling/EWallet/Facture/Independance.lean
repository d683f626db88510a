import EWallet.Facture.Comptes

namespace EWallet.Facture

open Firestore

/-- What the store holds for one user: the wallet document and, for each restaurant, the
invoices that name the user as client. -/
@[ext] structure Compte where
  wallet : Option Doc
  factures : String → List (String × Doc)

def compte (persoId : String) (db : Database) : Compte where
  wallet := db.doc? utilisateurs persoId
  factures restoId := db.query (transactions restoId) [("id du client", persoId)]

def Etape.Concerne (restoId : String) (t : Compte) (e : Etape) : Prop :=
  ∀ p id, e.choix = some (p, id) → ∃ d, (id, d) ∈ t.factures restoId

theorem mem_factures (db : Database) (persoId restoId id : String) (d : Doc) :
    (id, d) ∈ (compte persoId db).factures restoId ↔
      facture? db ⟨restoId, id⟩ = some d ∧ d.string? "id du client" = some persoId := by
  simp [compte, Database.mem_query, facture?]

theorem facturesNonSoldees_compte (db : Database) (persoId restoId : String) :
    facturesNonSoldees db persoId restoId =
      ((compte persoId db).factures restoId).filter (Database.isEqualTo "etat" "Non soldée") :=
  Database.query_pair db (transactions restoId) _ _

theorem compte_debit (db : Database) (persoId other : String) (p : Number) :
    compte other (debit db persoId p) = { compte other db with
      wallet := if other = persoId then
          (compte other db).wallet.map (fun d => d.update [("balance", .increment (-p))])
        else (compte other db).wallet } := by
  rw [compte, doc?_debit, compte, Compte.mk.injEq]
  refine ⟨rfl, ?_⟩
  funext restoId
  exact Database.query_change_other db _ _ _ _ (transactions_ne_utilisateurs restoId)

theorem compte_reglement (db : Database) (persoId : String) (f : FactureRef) :
    compte persoId (reglement db f) = { compte persoId db with
      factures := fun restoId => if restoId = f.resto then
          ((compte persoId db).factures restoId).map (OrderedMap.touch f.id
            (fun d : Doc => d.update [("etat", .value (.string "Soldé"))]))
        else (compte persoId db).factures restoId } := by
  rw [compte, doc?_reglement, compte, Compte.mk.injEq]
  refine ⟨rfl, ?_⟩
  funext restoId
  split
  · rename_i same
    subst same
    exact Database.query_change db _ f.id "etat" _ _ (by simp)
  · rename_i different
    exact Database.query_change_other db _ _ _ _ (by simpa using different)

theorem compte_reglement_autre (db : Database) (persoId other : String) (f : FactureRef)
    (own : client? db f = some persoId) (different : other ≠ persoId) :
    compte other (reglement db f) = compte other db := by
  have unseen : ∀ restoId, ((compte other (reglement db f)).factures restoId) =
      (compte other db).factures restoId := by
    intro restoId
    simp only [compte_reglement]
    split
    · rename_i same
      subst same
      apply OrderedMap.map_touch_absent
      intro entry member atKey
      obtain ⟨id, d⟩ := entry
      rw [mem_factures] at member
      cases atKey
      rw [client?, member.1, Option.bind_some, member.2, Option.some.injEq] at own
      exact different own
    · rfl
  exact Compte.ext (doc?_reglement db f other) (funext unseen)

theorem concerne_reste {persoId restoId autre : String} {db db' : Database} {e e' l : Etape}
    (step : Pas persoId restoId db e db' e') (concerne : l.Concerne autre (compte persoId db)) :
    l.Concerne autre (compte persoId db') := by
  intro p id picked
  obtain ⟨d, member⟩ := concerne p id picked
  cases step with
  | debit b p' id' present => exact ⟨d, by rw [compte_debit]; exact member⟩
  | reglement b p' id' present =>
      rw [compte_reglement]
      by_cases same : autre = restoId
      · simp only [if_pos same]
        exact OrderedMap.mem_map_touch _ id' id _ d member
      · exact ⟨d, by simpa only [if_neg same] using member⟩
  | lecture data found => exact ⟨d, member⟩
  | selection b p' id' data first price enough => exact ⟨d, member⟩
  | refus b p' id' data first price short => exact ⟨d, member⟩
  | exception avant going before => exact ⟨d, member⟩
  | echecDebit b p' id' absent => exact ⟨d, member⟩
  | echecReglement b p' id' absent => exact ⟨d, member⟩
  | repos e done => exact ⟨d, member⟩

theorem concerne_pas {persoId restoId : String} {db db' : Database} {e e' : Etape}
    (step : Pas persoId restoId db e db' e') (concerne : e.Concerne restoId (compte persoId db)) :
    e'.Concerne restoId (compte persoId db') := by
  have stays := concerne_reste step concerne
  cases step with
  | lecture data found =>
      intro p id picked
      cases picked
  | selection b p' id' data first price enough =>
      intro p id picked
      simp only [Etape.choix, Option.some.injEq, Prod.mk.injEq] at picked
      obtain ⟨_, rfl⟩ := picked
      obtain ⟨found, own, _⟩ := selection_facture _ _ _ _ _ first
      exact ⟨data, (mem_factures db persoId restoId id' data).mpr ⟨found, own⟩⟩
  | refus b p' id' data first price short =>
      intro p id picked
      cases picked
  | debit b p' id' present => exact stays
  | reglement b p' id' present => exact stays
  | exception avant going before => exact stays
  | echecDebit b p' id' absent => exact stays
  | echecReglement b p' id' absent => exact stays
  | repos e done => exact stays

theorem compte_autre {persoId restoId : String} {db db' : Database} {e e' : Etape}
    (step : Pas persoId restoId db e db' e') (concerne : e.Concerne restoId (compte persoId db))
    (other : String) (different : other ≠ persoId) : compte other db' = compte other db := by
  cases step with
  | debit b p id present => rw [compte_debit, if_neg different]
  | reglement b p id present =>
      obtain ⟨d, member⟩ := concerne p id rfl
      rw [mem_factures] at member
      have own : client? db ⟨restoId, id⟩ = some persoId := by
        rw [client?, member.1, Option.bind_some, member.2]
      exact compte_reglement_autre db persoId other _ own different
  | lecture data found => rfl
  | selection b p id data first price enough => rfl
  | refus b p id data first price short => rfl
  | exception avant going before => rfl
  | echecDebit b p id absent => rfl
  | echecReglement b p id absent => rfl
  | repos e done => rfl

theorem continuer_compte (persoId restoId : String) (db db' : Database) (e : Etape)
    (same : compte persoId db = compte persoId db')
    (concerne : e.Concerne restoId (compte persoId db)) :
    compte persoId (continuer persoId restoId db e).1 =
        compte persoId (continuer persoId restoId db' e).1 ∧
      (continuer persoId restoId db e).2 = (continuer persoId restoId db' e).2 := by
  have wallet : db.doc? utilisateurs persoId = db'.doc? utilisateurs persoId :=
    congrArg Compte.wallet same
  cases e with
  | debut => exact ⟨same, by simp only [continuer, lireBalance, wallet]⟩
  | balanceLue balance =>
      have unpaid : facturesNonSoldees db persoId restoId =
          facturesNonSoldees db' persoId restoId := by
        rw [facturesNonSoldees_compte, facturesNonSoldees_compte, same]
      exact ⟨same, by simp only [continuer, lireFacture, unpaid]⟩
  | valide b p id =>
      simp only [continuer, debiter, Database.update, wallet]
      by_cases present : (db'.doc? utilisateurs persoId).isSome
      · simp only [if_pos present, and_true]
        change compte persoId (debit db persoId p) = compte persoId (debit db' persoId p)
        rw [compte_debit, compte_debit, same]
      · simp only [if_neg present, and_true]
        exact same
  | debite b p id =>
      obtain ⟨d, member⟩ := concerne p id rfl
      have here := ((mem_factures db persoId restoId id d).mp member).1
      have there := ((mem_factures db' persoId restoId id d).mp (same ▸ member)).1
      simp only [facture?] at here there
      simp only [continuer, solder, Database.update, here, there, Option.isSome_some, if_true,
        and_true]
      change compte persoId (reglement db ⟨restoId, id⟩) =
        compte persoId (reglement db' ⟨restoId, id⟩)
      rw [compte_reglement, compte_reglement, same]
  | solde b p id => exact ⟨same, rfl⟩
  | refuse => exact ⟨same, rfl⟩
  | erreur avant => exact ⟨same, rfl⟩

def Etape.restants : Etape → ℕ
  | debut => 4
  | balanceLue _ => 3
  | valide _ _ _ => 2
  | debite _ _ _ => 1
  | _ => 0

theorem restants_pas {persoId restoId : String} {db db' : Database} {e e' : Etape}
    (step : Pas persoId restoId db e db' e') : e'.restants ≤ e.restants - 1 := by
  cases step with
  | repos e done =>
      cases e with
      | solde b p id => exact Nat.le_refl 0
      | refuse => exact Nat.le_refl 0
      | erreur avant => exact Nat.le_refl 0
      | debut => exact done.elim
      | balanceLue balance => exact done.elim
      | valide b p id => exact done.elim
      | debite b p id => exact done.elim
  | lecture data found => simp [Etape.restants]
  | selection b p id data first price enough => simp [Etape.restants]
  | refus b p id data first price short => simp [Etape.restants]
  | debit b p id present => simp [Etape.restants]
  | reglement b p id present => simp [Etape.restants]
  | exception avant going before => simp [Etape.restants]
  | echecDebit b p id absent => simp [Etape.restants]
  | echecReglement b p id absent => simp [Etape.restants]

theorem termine_of_restants (e : Etape) (none_ : e.restants = 0) : e.Termine := by
  cases e with
  | solde b p id => trivial
  | refuse => trivial
  | erreur avant => trivial
  | debut => cases none_
  | balanceLue balance => cases none_
  | valide b p id => cases none_
  | debite b p id => cases none_

structure HorsComptes (db db' : Database) : Prop where
  ailleurs : ∀ path, path ≠ utilisateurs → (∀ restoId, path ≠ transactions restoId) →
    db' path = db path
  client : ∀ f, client? db' f = client? db f
  sansClient : ∀ f, client? db f = none → facture? db' f = facture? db f

theorem hors_comptes_pas {persoId restoId : String} {db₀ db db' : Database} {e e' : Etape}
    (step : Pas persoId restoId db e db' e') (concerne : e.Concerne restoId (compte persoId db))
    (hors : HorsComptes db₀ db) : HorsComptes db₀ db' := by
  cases step with
  | debit b p id present =>
      refine ⟨fun path users restos => ?_, fun f => ?_, fun f none_ => ?_⟩
      · rw [debit, Database.change_other _ _ _ _ users]
        exact hors.ailleurs path users restos
      · rw [client?_debit]
        exact hors.client f
      · rw [facture?_debit]
        exact hors.sansClient f none_
  | reglement b p id present =>
      obtain ⟨d, member⟩ := concerne p id rfl
      rw [mem_factures] at member
      refine ⟨fun path users restos => ?_, fun f => ?_, fun f none_ => ?_⟩
      · rw [reglement, Database.change_other _ _ _ _ (restos restoId)]
        exact hors.ailleurs path users restos
      · rw [client?_reglement]
        exact hors.client f
      · have different : f ≠ ⟨restoId, id⟩ := by
          intro same
          rw [← hors.client, same, client?, member.1, Option.bind_some, member.2] at none_
          cases none_
        rw [facture?_reglement, if_neg different]
        exact hors.sansClient f none_
  | lecture data found => exact hors
  | selection b p id data first price enough => exact hors
  | refus b p id data first price short => exact hors
  | exception avant going before => exact hors
  | echecDebit b p id absent => exact hors
  | echecReglement b p id absent => exact hors
  | repos e done => exact hors

theorem facture?_of_compte (db db' : Database) (u : String) (f : FactureRef)
    (same : compte u db = compte u db') (own : client? db f = some u) :
    facture? db f = facture? db' f := by
  rw [client?, Option.bind_eq_some_iff] at own
  obtain ⟨d, found, named⟩ := own
  have member := (mem_factures db u f.resto f.id d).mpr ⟨found, named⟩
  rw [same, mem_factures] at member
  rw [found]
  exact member.1.symm

theorem store_ext (db₀ db db' : Database) (hors : HorsComptes db₀ db)
    (hors' : HorsComptes db₀ db') (same : ∀ u, compte u db = compte u db') : db = db' := by
  apply Database.ext_doc?
  intro path id
  by_cases users : path = utilisateurs
  · subst users
    exact congrArg Compte.wallet (same id)
  · by_cases resto : ∃ restoId, path = transactions restoId
    · obtain ⟨restoId, rfl⟩ := resto
      change facture? db ⟨restoId, id⟩ = facture? db' ⟨restoId, id⟩
      cases named : client? db₀ ⟨restoId, id⟩ with
      | none => rw [hors.sansClient _ named, hors'.sansClient _ named]
      | some u =>
          apply facture?_of_compte db db' u _ (same u)
          rw [hors.client, named]
    · rw [not_exists] at resto
      rw [Database.doc?, Database.doc?, hors.ailleurs path users resto,
        hors'.ailleurs path users resto]

section Runs

variable {ι : Type*} (persoId restoId : ι → String)

theorem suivant_separated : Interleaving.Separated (suivant persoId restoId) persoId compte .debut
    (fun i t e => e.Concerne (restoId i) t) where
  own i db db' e same concerne := continuer_compte (persoId i) (restoId i) db db' e same concerne
  other i u db e different concerne :=
    compte_autre (pas_continuer (persoId i) (restoId i) db e) concerne u different
  fresh_fits i t p id picked := by cases picked
  step_fits i db e concerne := concerne_pas (pas_continuer (persoId i) (restoId i) db e) concerne
  others_fit i j db e e' same concerne _ := by
    have step := pas_continuer (persoId j) (restoId j) db e'
    rw [same] at step
    rw [suivant, same]
    exact concerne_reste step concerne

theorem suivant_terminating :
    Interleaving.Terminating (suivant persoId restoId) .debut Etape.Termine 4 where
  leaves i db e := pas_quitte (pas_continuer (persoId i) (restoId i) db e)
  stands i db e done := continuer_termine (persoId i) (restoId i) db e done
  ends i db := by
    have fewer : ∀ n, (Interleaving.solo (suivant persoId restoId) i n (db, .debut)).2.restants
        ≤ 4 - n := by
      intro n
      induction n with
      | zero => exact Nat.le_refl 4
      | succ n ih =>
          rw [Interleaving.solo_succ]
          have less := restants_pas (pas_continuer (persoId i) (restoId i)
            (Interleaving.solo (suivant persoId restoId) i n (db, .debut)).1
            (Interleaving.solo (suivant persoId restoId) i n (db, .debut)).2)
          exact less.trans (by omega)
    exact termine_of_restants _ (Nat.le_zero.mp (fewer 4))

/-- The store after the runs of one user, each from its first step to its end, in the order in
which the schedule starts them and with no other run. -/
def seuls [DecidableEq ι] (persoId restoId : ι → String) (u : String) (db : Database)
    (ordre : List ι) : Database :=
  (Interleaving.order persoId u ordre).foldl
    (Interleaving.complete (suivant persoId restoId) .debut 4) db

/-- No two runs of one user are in progress together. -/
def SansChevauchement [DecidableEq ι] (persoId restoId : ι → String) (db : Database)
    (ordre : List ι) : Prop :=
  Machine.Along (pas persoId restoId) (Interleaving.Alone .debut Etape.Termine persoId)
    (Interleaving.initial db .debut) ordre

variable {persoId restoId} [DecidableEq ι]

theorem compte_seuls (db : Database) (ordre : List ι)
    (alone : SansChevauchement persoId restoId db ordre)
    (quiet : AucunEnCours (executer persoId restoId db ordre)) (u : String) :
    compte u (executer persoId restoId db ordre).shared =
      compte u (seuls persoId restoId u db ordre) :=
  Interleaving.independent (suivant_separated persoId restoId)
    (suivant_terminating persoId restoId) u db ordre alone quiet

theorem concerne_executer (db : Database) (ordre : List ι) (i : ι) :
    ((executer persoId restoId db ordre).loc i).Concerne (restoId i)
      (compte (persoId i) (executer persoId restoId db ordre).shared) :=
  Interleaving.run_allFit (suivant_separated persoId restoId) db ordre i

theorem hors_comptes_executer (db : Database) (ordre : List ι) :
    HorsComptes db (executer persoId restoId db ordre).shared := by
  induction ordre using List.reverseRecOn with
  | nil => exact ⟨fun _ _ _ => rfl, fun _ => rfl, fun _ _ => rfl⟩
  | append_singleton front i ih =>
      rw [executer_snoc]
      exact hors_comptes_pas (pas_continuer (persoId i) (restoId i) _ _)
        (concerne_executer db front i) ih

end Runs

section TroisRuns

def baseDeuxClients : Database
  | ["utilisateurs"] => ⟨[("u", Doc.ofFields [("balance", .number (.int 100))]),
      ("v", Doc.ofFields [("balance", .number (.int 20))])], by decide⟩
  | ["restaurants", "R", "transactions"] =>
      ⟨[("f", Doc.ofFields [("id du client", .string "u"), ("etat", .string "Non soldée"),
          ("prix", .number (.int 30))]),
        ("g", Doc.ofFields [("id du client", .string "v"), ("etat", .string "Non soldée"),
          ("prix", .number (.int 20))]),
        ("h", Doc.ofFields [("id du client", .string "u"), ("etat", .string "Non soldée"),
          ("prix", .number (.int 50))])], by decide⟩
  | _ => OrderedMap.empty

def clients : Fin 3 → String
  | 0 => "u"
  | 1 => "v"
  | 2 => "u"

def ordreMele : List (Fin 3) := [0, 1, 0, 1, 0, 1, 0, 2, 1, 2, 2, 2]

end TroisRuns

/-- Payments of different users are independent: in an interleaving in which runs of one user do
not overlap, each account ends as if that user's runs had been executed alone, the final store
is the same for every interleaving of the same runs, and no step touches another account. -/
theorem payments_of_users_independent {ι : Type*} [DecidableEq ι] (persoId restoId : ι → String)
    (db : Database) (ordre : List ι) (alone : SansChevauchement persoId restoId db ordre)
    (quiet : AucunEnCours (executer persoId restoId db ordre)) :
    (∀ u, compte u (executer persoId restoId db ordre).shared =
      compte u (seuls persoId restoId u db ordre)) ∧
    (∀ ordre', SansChevauchement persoId restoId db ordre' →
      AucunEnCours (executer persoId restoId db ordre') →
      (∀ u, Interleaving.order persoId u ordre' = Interleaving.order persoId u ordre) →
      (executer persoId restoId db ordre').shared = (executer persoId restoId db ordre).shared) ∧
    (∀ front i back, ordre = front ++ i :: back → ∀ u, u ≠ persoId i →
      compte u (executer persoId restoId db (front ++ [i])).shared =
        compte u (executer persoId restoId db front).shared) := by
  refine ⟨compte_seuls db ordre alone quiet, ?_, ?_⟩
  · intro ordre' alone' quiet' same
    apply store_ext db _ _ (hors_comptes_executer db ordre') (hors_comptes_executer db ordre)
    intro u
    rw [compte_seuls db ordre' alone' quiet', compte_seuls db ordre alone quiet, seuls, seuls,
      same u]
  · intro front i back split u different
    rw [executer_snoc]
    exact compte_autre (pas_continuer (persoId i) (restoId i) _ _) (concerne_executer db front i)
      u different

theorem payments_of_two_clients_independent :
    (∀ u, compte u (executer clients (fun _ => "R") baseDeuxClients ordreMele).shared =
      compte u (seuls clients (fun _ => "R") u baseDeuxClients ordreMele)) ∧
    balance? (executer clients (fun _ => "R") baseDeuxClients ordreMele).shared "u" =
      some (.int 20) ∧
    balance? (executer clients (fun _ => "R") baseDeuxClients ordreMele).shared "v" =
      some (.int 0) := by
  have alone : SansChevauchement clients (fun _ => "R") baseDeuxClients ordreMele := by
    unfold SansChevauchement
    decide +kernel
  have quiet : AucunEnCours (executer clients (fun _ => "R") baseDeuxClients ordreMele) := by
    decide +kernel
  exact ⟨(payments_of_users_independent clients _ baseDeuxClients ordreMele alone quiet).1,
    by decide +kernel, by decide +kernel⟩

end EWallet.Facture
