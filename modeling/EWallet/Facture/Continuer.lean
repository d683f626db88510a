import EWallet.Collections
import EWallet.Library.Interleaving

namespace EWallet.Facture

open Firestore

/-- Where a run of the 'Continuer' handler stands, with the values of its three variables.
An exception ends the run in the stage it was in. -/
inductive Etape where
  | debut
  | balanceLue (balance : Value)
  | valide (balance prix : Number) (idfact : String)
  | debite (balance prix : Number) (idfact : String)
  | solde (balance prix : Number) (idfact : String)
  | refuse
  | erreur (avant : Etape)

def lireBalance (db : Database) (persoId : String) : Etape :=
  -- `data()` is null when the user has no document
  match db.doc? utilisateurs persoId with
  | some data => .balanceLue (data.field "balance")
  | none => .erreur .debut

def facturesNonSoldees (db : Database) (persoId restoId : String) : List (String × Doc) :=
  db.query (transactions restoId) [("id du client", persoId), ("etat", "Non soldée")]

/-- The query with `limit(1)` and, in the same turn of the event loop, the test of the balance.
`docs.first` throws on an empty result, `-` on a field that is not a number. -/
def lireFacture (db : Database) (persoId restoId : String) (balance : Value) : Etape :=
  match (facturesNonSoldees db persoId restoId).take 1 with
  | [] => .erreur (.balanceLue balance)
  | (idfact, data) :: _ =>
      match balance, data.field "prix" with
      | .number balance, .number prix =>
          if (balance - prix).Nonneg then .valide balance prix idfact else .refuse
      | balance, _ => .erreur (.balanceLue balance)

def debiter (db : Database) (persoId : String) (balance prix : Number) (idfact : String) :
    Database × Etape :=
  match db.update utilisateurs persoId [("balance", .increment (-prix))] with
  | some db' => (db', .debite balance prix idfact)
  | none => (db, .erreur (.valide balance prix idfact))

def solder (db : Database) (restoId : String) (balance prix : Number) (idfact : String) :
    Database × Etape :=
  match db.update (transactions restoId) idfact [("etat", .value (.string "Soldé"))] with
  | some db' => (db', .solde balance prix idfact)
  | none => (db, .erreur (.debite balance prix idfact))

/-- One awaited call of the handler and what follows it up to the next `await`. -/
def continuer (persoId restoId : String) (db : Database) : Etape → Database × Etape
  | .debut => (db, lireBalance db persoId)
  | .balanceLue balance => (db, lireFacture db persoId restoId balance)
  | .valide balance prix idfact => debiter db persoId balance prix idfact
  | .debite balance prix idfact => solder db restoId balance prix idfact
  | termine => (db, termine)

namespace Etape

/-- The message the run has shown: it is shown when the balance has been tested, before the
debit is sent. -/
def message : Etape → Option String
  | debut => none
  | balanceLue _ => none
  | valide _ _ _ => some "Paiement validé !"
  | debite _ _ _ => some "Paiement validé !"
  | solde _ _ _ => some "Paiement validé !"
  | refuse => some "Paiement refusé, solde insuffisant !"
  | erreur avant => avant.message

def choix : Etape → Option (Number × String)
  | debut => none
  | balanceLue _ => none
  | valide _ prix idfact => some (prix, idfact)
  | debite _ prix idfact => some (prix, idfact)
  | solde _ prix idfact => some (prix, idfact)
  | refuse => none
  | erreur avant => avant.choix

def preleve : Etape → Option (Number × String)
  | debut => none
  | balanceLue _ => none
  | valide _ _ _ => none
  | debite _ prix idfact => some (prix, idfact)
  | solde _ prix idfact => some (prix, idfact)
  | refuse => none
  | erreur avant => avant.preleve

def montant (e : Etape) : ℚ := (e.preleve.map (fun p => p.1.toRat)).getD 0

def Termine : Etape → Prop
  | solde _ _ _ => True
  | refuse => True
  | erreur _ => True
  | _ => False

instance : DecidablePred Termine := fun e =>
  match e with
  | debut => isFalse id
  | balanceLue _ => isFalse id
  | valide _ _ _ => isFalse id
  | debite _ _ _ => isFalse id
  | solde _ _ _ => isTrue trivial
  | refuse => isTrue trivial
  | erreur _ => isTrue trivial

instance (e : Etape) : Decidable (e = debut) :=
  match e with
  | debut => isTrue rfl
  | balanceLue _ => isFalse (by simp)
  | valide _ _ _ => isFalse (by simp)
  | debite _ _ _ => isFalse (by simp)
  | solde _ _ _ => isFalse (by simp)
  | refuse => isFalse (by simp)
  | erreur _ => isFalse (by simp)

theorem choix_of_preleve (e : Etape) (p : Number × String) (taken : e.preleve = some p) :
    e.choix = some p := by
  induction e with
  | debite balance prix idfact => exact taken
  | solde balance prix idfact => exact taken
  | erreur avant ih => exact ih taken
  | debut => cases taken
  | balanceLue balance => cases taken
  | valide balance prix idfact => cases taken
  | refuse => cases taken

end Etape

inductive Pas (persoId restoId : String) (db : Database) : Etape → Database → Etape → Prop
  | lecture (data : Doc) (found : db.doc? utilisateurs persoId = some data) :
      Pas persoId restoId db .debut db (.balanceLue (data.field "balance"))
  | selection (balance prix : Number) (idfact : String) (data : Doc)
      (first : (facturesNonSoldees db persoId restoId).head? = some (idfact, data))
      (price : data.number? "prix" = some prix) (enough : (balance - prix).Nonneg) :
      Pas persoId restoId db (.balanceLue (.number balance)) db (.valide balance prix idfact)
  | refus (balance prix : Number) (idfact : String) (data : Doc)
      (first : (facturesNonSoldees db persoId restoId).head? = some (idfact, data))
      (price : data.number? "prix" = some prix) (short : ¬ (balance - prix).Nonneg) :
      Pas persoId restoId db (.balanceLue (.number balance)) db .refuse
  | debit (balance prix : Number) (idfact : String)
      (present : (db.doc? utilisateurs persoId).isSome) :
      Pas persoId restoId db (.valide balance prix idfact) (debit db persoId prix)
        (.debite balance prix idfact)
  | reglement (balance prix : Number) (idfact : String)
      (present : (facture? db ⟨restoId, idfact⟩).isSome) :
      Pas persoId restoId db (.debite balance prix idfact) (reglement db ⟨restoId, idfact⟩)
        (.solde balance prix idfact)
  | exception (avant : Etape) (going : ¬ avant.Termine) (before : avant.choix = none) :
      Pas persoId restoId db avant db (.erreur avant)
  | echecDebit (balance prix : Number) (idfact : String)
      (absent : db.doc? utilisateurs persoId = none) :
      Pas persoId restoId db (.valide balance prix idfact) db
        (.erreur (.valide balance prix idfact))
  | echecReglement (balance prix : Number) (idfact : String)
      (absent : facture? db ⟨restoId, idfact⟩ = none) :
      Pas persoId restoId db (.debite balance prix idfact) db
        (.erreur (.debite balance prix idfact))
  | repos (e : Etape) (done : e.Termine) : Pas persoId restoId db e db e

theorem pas_lireFacture (persoId restoId : String) (db : Database) (balance : Value) :
    Pas persoId restoId db (.balanceLue balance) db (lireFacture db persoId restoId balance) := by
  unfold lireFacture
  cases found : facturesNonSoldees db persoId restoId with
  | nil => exact .exception _ id rfl
  | cons entry rest =>
      obtain ⟨idfact, data⟩ := entry
      simp only [List.take_succ_cons, List.take_zero]
      split
      · rename_i balance prix price
        have stored := (data.number?_iff_field "prix" prix).mpr price
        by_cases enough : (balance - prix).Nonneg
        · rw [if_pos enough]
          exact .selection balance prix idfact data (by simp [found]) stored enough
        · rw [if_neg enough]
          exact .refus balance prix idfact data (by simp [found]) stored enough
      · exact .exception _ id rfl

theorem pas_continuer (persoId restoId : String) (db : Database) (e : Etape) :
    Pas persoId restoId db e (continuer persoId restoId db e).1
      (continuer persoId restoId db e).2 := by
  cases e with
  | debut =>
      simp only [continuer, lireBalance]
      split
      · rename_i data found
        exact .lecture data found
      · exact .exception _ id rfl
  | balanceLue balance => exact pas_lireFacture persoId restoId db balance
  | valide balance prix idfact =>
      simp only [continuer, debiter, Database.update]
      by_cases present : (db.doc? utilisateurs persoId).isSome
      · rw [if_pos present]
        exact .debit balance prix idfact present
      · rw [if_neg present]
        exact .echecDebit balance prix idfact (by simpa using present)
  | debite balance prix idfact =>
      simp only [continuer, solder, Database.update]
      by_cases present : (db.doc? (transactions restoId) idfact).isSome
      · rw [if_pos present]
        exact .reglement balance prix idfact present
      · rw [if_neg present]
        exact .echecReglement balance prix idfact (by simpa [facture?] using present)
  | solde balance prix idfact => exact .repos _ trivial
  | refuse => exact .repos _ trivial
  | erreur avant => exact .repos _ trivial

theorem pas_quitte {persoId restoId : String} {db db' : Database} {e e' : Etape}
    (step : Pas persoId restoId db e db' e') : e' ≠ .debut := by
  cases step with
  | repos e done =>
      intro start
      rw [start] at done
      exact done
  | lecture data found => simp
  | selection b p id data first price enough => simp
  | refus b p id data first price short => simp
  | debit b p id present => simp
  | reglement b p id present => simp
  | exception avant going before => simp
  | echecDebit b p id absent => simp
  | echecReglement b p id absent => simp

theorem continuer_termine (persoId restoId : String) (db : Database) (e : Etape)
    (done : e.Termine) : continuer persoId restoId db e = (db, e) := by
  cases e with
  | solde b p id => rfl
  | refuse => rfl
  | erreur avant => rfl
  | debut => exact done.elim
  | balanceLue balance => exact done.elim
  | valide b p id => exact done.elim
  | debite b p id => exact done.elim

theorem selection_facture (db : Database) (persoId restoId idfact : String) (data : Doc)
    (first : (facturesNonSoldees db persoId restoId).head? = some (idfact, data)) :
    facture? db ⟨restoId, idfact⟩ = some data ∧ data.string? "id du client" = some persoId ∧
      data.string? "etat" = some "Non soldée" := by
  have member : (idfact, data) ∈ facturesNonSoldees db persoId restoId := List.mem_of_head? first
  rw [facturesNonSoldees, Database.mem_query] at member
  exact ⟨member.1, member.2 ("id du client", persoId) (by simp),
    member.2 ("etat", "Non soldée") (by simp)⟩

section Runs

variable {ι : Type*} [DecidableEq ι] (persoId restoId : ι → String)

/-- The runs of the handler started anywhere, as processes on the one store: run `i` is the
one of user `persoId i` on the page of restaurant `restoId i`. -/
def suivant (i : ι) (db : Database) (e : Etape) : Database × Etape :=
  continuer (persoId i) (restoId i) db e

abbrev Systeme (ι : Type*) := Interleaving.Config Database ι Etape

def executer (db : Database) (ordre : List ι) : Systeme ι :=
  Interleaving.run (suivant persoId restoId) (Interleaving.initial db .debut) ordre

def pas (c : Systeme ι) (i : ι) : Systeme ι := Interleaving.step (suivant persoId restoId) c i

theorem executer_snoc (db : Database) (ordre : List ι) (i : ι) :
    executer persoId restoId db (ordre ++ [i]) =
      pas persoId restoId (executer persoId restoId db ordre) i :=
  Interleaving.run_snoc _ _ ordre i

theorem pas_cases (c : Systeme ι) (i : ι) :
    ∃ db' e', pas persoId restoId c i = ⟨db', Function.update c.loc i e'⟩ ∧
      Pas (persoId i) (restoId i) c.shared (c.loc i) db' e' :=
  ⟨_, _, rfl, pas_continuer (persoId i) (restoId i) c.shared (c.loc i)⟩

def AucunEnCours (c : Systeme ι) : Prop := ∀ i, c.loc i = .debut ∨ (c.loc i).Termine

instance [Fintype ι] (c : Systeme ι) : Decidable (AucunEnCours c) :=
  inferInstanceAs (Decidable (∀ i, c.loc i = .debut ∨ (c.loc i).Termine))

end Runs

end EWallet.Facture
