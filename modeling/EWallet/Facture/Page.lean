import EWallet.Facture.Serie
import EWallet.Commandes.Dates
import EWallet.Library.Decoding

namespace EWallet.Facture

open Firestore Commandes

def forFacture : Value → Option MenuInfoCommande
  | .map element => do
      let nom ← enTexte ((Doc.ofFields element).field "nom du plat")
      let categorie ← enTexte ((Doc.ofFields element).field "categorie")
      let quantite ← enInt ((Doc.ofFields element).field "quantite")
      let prix ← enNum ((Doc.ofFields element).field "prix")
      return ⟨nom, categorie, prix, quantite⟩
  | _ => none

def enListe : Value → Option (List Value)
  -- `forEach` throws on null
  | .array items => some items
  | _ => none

structure FactureModel where
  idFacture : String
  idClient : Option String
  idResto : Option String
  nomClient : Option String
  nomResto : Option String
  etat : Option String
  modePayement : Option String
  date : ℤ
  prixTotal : Option Number
  commandes : List MenuInfoCommande

def FactureModel.fromData (fromTimestamp : ℤ → ℤ) (data : String × Doc) : Option FactureModel := do
  let idClient ← enTexte (data.2.field "id du client")
  let idResto ← enTexte (data.2.field "id du restaurant")
  let nomClient ← enTexte (data.2.field "nom du client")
  let nomResto ← enTexte (data.2.field "nom du restaurant")
  let etat ← enTexte (data.2.field "etat")
  let modePayement ← enTexte (data.2.field "mode de payement")
  let date ← enTimestamp (data.2.field "date")
  let prixTotal ← enNum (data.2.field "prix")
  let com ← enListe (data.2.field "commandes")
  let commandes ← com.mapM forFacture
  return ⟨data.1, idClient, idResto, nomClient, nomResto, etat, modePayement, fromTimestamp date,
    prixTotal, commandes⟩

/-- What the builder of the page shows once the query has answered. An invoice that cannot be
decoded takes the whole list with it. -/
inductive Contenu where
  | texte (message : String)
  | factures (liste : List FactureModel)
  | exception

def afficher (liste : List FactureModel) : Contenu :=
  if liste.isEmpty then .texte "Vous n'avez pas de factures à payer pour le moment !"
  else .factures liste

def decodees (fromTimestamp : ℤ → ℤ) (db : Database) (persoId restoId : String) :
    Option (List FactureModel) :=
  (facturesNonSoldees db persoId restoId).mapM (FactureModel.fromData fromTimestamp)

def page (fromTimestamp : ℤ → ℤ) (db : Database) (persoId restoId : String) : Contenu :=
  match decodees fromTimestamp db persoId restoId with
  | some liste => afficher liste
  | none => .exception

structure Tuile where
  nomResto : String
  montant : String
  date : String
  deriving DecidableEq

def getDate (decalage : ℤ → ℤ) (facture : FactureModel) : String :=
  let champs := texte decalage facture.date
  toString champs.date.day ++ "/" ++ toString champs.date.month ++ "/" ++
    toString champs.date.year ++ "   " ++ toString champs.hour ++ ":" ++ toString champs.minute

/-- `MenuItemWidget` on an invoice: an assertion of `Text` fails on a name that is null, `toInt`
throws on a price that is. -/
def menuItemWidget (decalage : ℤ → ℤ) (facture : FactureModel) : Option Tuile := do
  let nomResto ← facture.nomResto
  let prixTotal ← facture.prixTotal
  let montant ← prixTotal.toInt
  return ⟨nomResto, toString montant ++ " Frs", getDate decalage facture⟩

theorem fromData_facture {fromTimestamp : ℤ → ℤ} {data : String × Doc} {facture : FactureModel}
    (decoded : FactureModel.fromData fromTimestamp data = some facture) :
    facture.idFacture = data.1 ∧ enNum (data.2.field "prix") = some facture.prixTotal := by
  simp only [FactureModel.fromData, Option.bind_eq_bind, Option.bind_eq_some_iff,
    Option.pure_def, Option.some.injEq] at decoded
  obtain ⟨_, _, _, _, _, _, _, _, _, _, _, _, _, _, prix, price, _, _, _, _, rfl⟩ := decoded
  exact ⟨rfl, price⟩

theorem enNum_number (d : Doc) (key : String) (n : Number) (stored : d.number? key = some n) :
    enNum (d.field key) = some (some n) := by
  rw [Doc.number?_iff_field] at stored
  rw [stored]
  rfl

theorem facturesNonSoldees_reglement (db : Database) (f : FactureRef) (persoId restoId : String)
    (present : (facture? db f).isSome) :
    facturesNonSoldees (reglement db f) persoId restoId =
      (facturesNonSoldees db persoId restoId).filter
        (fun e => etat? (reglement db f) ⟨restoId, e.1⟩ ≠ some "Soldé") := by
  have unpaid : ∀ e ∈ facturesNonSoldees db persoId restoId,
      (⟨restoId, e.1⟩ : FactureRef) ≠ f → etat? (reglement db f) ⟨restoId, e.1⟩ ≠ some "Soldé" := by
    intro e member other paid
    rw [etat?_reglement db f _ present, if_neg other] at paid
    rw [facturesNonSoldees, Database.mem_query] at member
    have state := member.2 ("etat", "Non soldée") (by simp)
    have held : etat? db ⟨restoId, e.1⟩ = some "Non soldée" := by
      simpa [etat?, facture?, member.1] using state
    rw [held] at paid
    exact absurd paid (by decide)
  by_cases here : restoId = f.resto
  · subst here
    have settled : ∀ d : Doc, Doc.string? (d.update [("etat", .value (.string "Soldé"))]) "etat" ≠
        some "Non soldée" := by
      intro d
      simp [Doc.string?, Doc.update_single, FieldValue.apply]
    calc
      facturesNonSoldees (reglement db f) persoId f.resto =
          (facturesNonSoldees db persoId f.resto).filter (fun e => e.1 ≠ f.id) :=
        Database.query_change_out _ (transactions f.resto) f.id _ _ ("etat", "Non soldée") (by simp)
          settled
      _ = (facturesNonSoldees db persoId f.resto).filter
            (fun e => etat? (reglement db f) ⟨f.resto, e.1⟩ ≠ some "Soldé") := by
        apply List.filter_congr
        intro e member
        rw [decide_eq_decide]
        constructor
        · intro different
          exact unpaid e member (fun same => different (congrArg FactureRef.id same))
        · intro open_ same
          have state := etat?_reglement db f f present
          rw [if_pos rfl] at state
          exact open_ (by rw [same]; exact state)
  · have others : ∀ e ∈ facturesNonSoldees db persoId restoId,
        decide (etat? (reglement db f) ⟨restoId, e.1⟩ ≠ some "Soldé") = true := by
      intro e member
      rw [decide_eq_true_eq]
      exact unpaid e member (fun same => here (congrArg FactureRef.resto same))
    rw [List.filter_eq_self.mpr others, facturesNonSoldees, reglement,
      Database.query_change_other _ _ _ _ _ (by simpa using here)]
    rfl

theorem facturesNonSoldees_ouvertes (db : Database) (persoId restoId : String) :
    (facturesNonSoldees db persoId restoId).filter
        (fun e => etat? db ⟨restoId, e.1⟩ ≠ some "Soldé") =
      facturesNonSoldees db persoId restoId := by
  rw [List.filter_eq_self]
  intro e member
  rw [facturesNonSoldees, Database.mem_query] at member
  have state := member.2 ("etat", "Non soldée") (by simp)
  have held : etat? db ⟨restoId, e.1⟩ = some "Non soldée" := by
    simpa [etat?, facture?, member.1] using state
  rw [held]
  decide

theorem facturesNonSoldees_pas {persoId restoId : String} {db db' : Database} {e e' : Etape}
    (step : Pas persoId restoId db e db' e') (u R : String) :
    facturesNonSoldees db' u R = (facturesNonSoldees db u R).filter
      (fun e => etat? db' ⟨R, e.1⟩ ≠ some "Soldé") := by
  cases step with
  | reglement b p id present => exact facturesNonSoldees_reglement db ⟨restoId, id⟩ u R present
  | debit b p id present =>
      have same : facturesNonSoldees (debit db persoId p) u R = facturesNonSoldees db u R := by
        rw [facturesNonSoldees, debit,
          Database.query_change_other _ _ _ _ _ (transactions_ne_utilisateurs R),
          facturesNonSoldees]
      rw [← facturesNonSoldees_ouvertes (debit db persoId p) u R, same]
  | lecture data found => exact (facturesNonSoldees_ouvertes db u R).symm
  | selection b p id data first price enough => exact (facturesNonSoldees_ouvertes db u R).symm
  | refus b p id data first price short => exact (facturesNonSoldees_ouvertes db u R).symm
  | exception avant going before => exact (facturesNonSoldees_ouvertes db u R).symm
  | echecDebit b p id absent => exact (facturesNonSoldees_ouvertes db u R).symm
  | echecReglement b p id absent => exact (facturesNonSoldees_ouvertes db u R).symm
  | repos e done => exact (facturesNonSoldees_ouvertes db u R).symm

section Runs

variable {ι : Type*} [DecidableEq ι] (persoId restoId : ι → String)

structure Suivie (db : Database) (c : Systeme ι) : Prop where
  liste : ∀ u R, facturesNonSoldees c.shared u R = (facturesNonSoldees db u R).filter
    (fun e => etat? c.shared ⟨R, e.1⟩ ≠ some "Soldé")
  choisie : ∀ i p id, (c.loc i).choix = some (p, id) →
    ∃ data, (id, data) ∈ facturesNonSoldees db (persoId i) (restoId i) ∧
      data.number? "prix" = some p

variable {persoId restoId}

theorem liste_pas (db : Database) (c : Systeme ι) (suivie : Suivie persoId restoId db c) (i : ι)
    (u R : String) :
    facturesNonSoldees (pas persoId restoId c i).shared u R = (facturesNonSoldees db u R).filter
      (fun e => etat? (pas persoId restoId c i).shared ⟨R, e.1⟩ ≠ some "Soldé") := by
  obtain ⟨db', e', result, step⟩ := pas_cases persoId restoId c i
  rw [result, facturesNonSoldees_pas step u R, suivie.liste, List.filter_filter]
  apply List.filter_congr
  intro e _
  have stays := pas_soldee step ⟨R, e.1⟩
  simp only [Soldee] at stays
  by_cases before : etat? c.shared ⟨R, e.1⟩ = some "Soldé"
  · simp [stays before]
  · simp [before]

theorem suivie_pas (db : Database) (c : Systeme ι) (suivie : Suivie persoId restoId db c) (i : ι) :
    Suivie persoId restoId db (pas persoId restoId c i) := by
  refine ⟨liste_pas db c suivie i, ?_⟩
  obtain ⟨db', e', result, step⟩ := pas_cases persoId restoId c i
  rw [result]
  rw [Function.forall_update_iff c.loc (fun j e => ∀ p id, e.choix = some (p, id) →
    ∃ data, (id, data) ∈ facturesNonSoldees db (persoId j) (restoId j) ∧
      data.number? "prix" = some p)]
  refine ⟨?_, fun j _ => suivie.choisie j⟩
  intro p id picked
  have before := suivie.choisie i p id
  generalize c.loc i = e at step before
  cases step with
  | selection b p' id' data first price enough =>
      cases picked
      refine ⟨data, ?_, price⟩
      have listed := List.mem_of_head? first
      rw [suivie.liste] at listed
      exact (List.mem_filter.mp listed).1
  | lecture data found => cases picked
  | refus b p' id' data first price short => cases picked
  | debit b p' id' present => exact before picked
  | reglement b p' id' present => exact before picked
  | exception avant going none_ => exact before picked
  | echecDebit b p' id' absent => exact before picked
  | echecReglement b p' id' absent => exact before picked
  | repos e done => exact before picked

theorem suivie_executer (db : Database) (ordre : List ι) :
    Suivie persoId restoId db (executer persoId restoId db ordre) := by
  apply Machine.run_preserves (pas persoId restoId) (Suivie persoId restoId db)
  · exact fun c i suivie => suivie_pas db c suivie i
  · exact ⟨fun u R => (facturesNonSoldees_ouvertes db u R).symm,
      fun i p id picked => by cases picked⟩

end Runs

def baseAffichee : Database
  | ["utilisateurs"] => OrderedMap.single "u" (Doc.ofFields [("balance", .number (.int 100))])
  | ["restaurants", "R", "transactions"] =>
      OrderedMap.single "f" (Doc.ofFields [("id du client", .string "u"),
        ("id du restaurant", .string "R"), ("nom du client", .string "Ada"),
        ("nom du restaurant", .string "Chez R"), ("etat", .string "Non soldée"),
        ("mode de payement", .string "appli"), ("date", .timestamp 1625137200000000),
        ("prix", .number (.double (.ofRat (61 / 2)))),
        ("commandes", .array [.map [("nom du plat", .string "Riz"), ("categorie", .string "plats"),
          ("quantite", .number (.int 1)), ("prix", .number (.double (.ofRat (61 / 2))))]])])
  | _ => OrderedMap.empty

def factureAffichee : FactureModel :=
  ⟨"f", some "u", some "R", some "Ada", some "Chez R", some "Non soldée", some "appli",
    1625137200000000, some (.double (.ofRat (61 / 2))),
    [⟨some "Riz", some "plats", some (.double (.ofRat (61 / 2))), some 1⟩]⟩

/-- One invoice that cannot be decoded takes the whole page down, as long as it is not settled:
the runs of the handler, which do not decode it, may still settle it. -/
theorem page_fails_iff_undecodable {ι : Type*} [DecidableEq ι] (persoId restoId : ι → String)
    (fromTimestamp : ℤ → ℤ) (db : Database) (u R : String) (ordre : List ι) :
    page fromTimestamp (executer persoId restoId db ordre).shared u R = .exception ↔
      ∃ e ∈ facturesNonSoldees db u R, FactureModel.fromData fromTimestamp e = none ∧
        ¬ Soldee (executer persoId restoId db ordre).shared ⟨R, e.1⟩ := by
  have suivie : Suivie persoId restoId db (executer persoId restoId db ordre) :=
    suivie_executer db ordre
  have shown : page fromTimestamp (executer persoId restoId db ordre).shared u R = .exception ↔
      decodees fromTimestamp (executer persoId restoId db ordre).shared u R = none := by
    simp only [page, afficher]
    cases decodees fromTimestamp (executer persoId restoId db ordre).shared u R with
    | none => simp
    | some liste => cases liste <;> simp
  rw [shown, decodees, Decoding.mapM_eq_none_iff, suivie.liste]
  constructor
  · rintro ⟨e, listed, bad⟩
    obtain ⟨before, open_⟩ := List.mem_filter.mp listed
    exact ⟨e, before, bad, by simpa [Soldee] using open_⟩
  · rintro ⟨e, before, bad, open_⟩
    exact ⟨e, List.mem_filter.mpr ⟨before, by simpa [Soldee] using open_⟩, bad⟩

end EWallet.Facture
