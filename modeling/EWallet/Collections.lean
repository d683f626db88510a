import EWallet.Library.Firestore

namespace EWallet

open Firestore

def utilisateurs : Path := ["utilisateurs"]

def transactions (restoId : String) : Path := ["restaurants", restoId, "transactions"]

def commandes (restoId : String) : Path := ["restaurants", restoId, "commandes"]

def restaurantsFav (persoId : String) : Path := ["utilisateurs", persoId, "restaurants fav"]

/-- An invoice document, named by its restaurant and its id in `transactions`. -/
structure FactureRef where
  resto : String
  id : String
  deriving DecidableEq

@[simp] theorem transactions_ne_utilisateurs (restoId : String) :
    transactions restoId ≠ utilisateurs := by
  simp [transactions, utilisateurs]

@[simp] theorem utilisateurs_ne_transactions (restoId : String) :
    utilisateurs ≠ transactions restoId := by
  simp [transactions, utilisateurs]

@[simp] theorem transactions_inj (left right : String) :
    transactions left = transactions right ↔ left = right := by
  simp [transactions]

@[simp] theorem commandes_inj (left right : String) :
    commandes left = commandes right ↔ left = right := by
  simp [commandes]

def facture? (db : Database) (f : FactureRef) : Option Doc := db.doc? (transactions f.resto) f.id

def balance? (db : Database) (persoId : String) : Option Number :=
  (db.doc? utilisateurs persoId).bind (fun d => d.number? "balance")

def client? (db : Database) (f : FactureRef) : Option String :=
  (facture? db f).bind (fun d => d.string? "id du client")

def etat? (db : Database) (f : FactureRef) : Option String :=
  (facture? db f).bind (fun d => d.string? "etat")

def prix? (db : Database) (f : FactureRef) : Option Number :=
  (facture? db f).bind (fun d => d.number? "prix")

def prix (db : Database) (f : FactureRef) : ℚ := ((prix? db f).map Number.toRat).getD 0

def NonSoldee (db : Database) (f : FactureRef) : Prop := etat? db f = some "Non soldée"

def Soldee (db : Database) (f : FactureRef) : Prop := etat? db f = some "Soldé"

/-- The invoice went from 'Non soldée' in the first store to 'Soldé' in the second. -/
def Reglee (db db' : Database) (f : FactureRef) : Prop := NonSoldee db f ∧ Soldee db' f

theorem soldee_excludes {db : Database} {f : FactureRef} (paid : Soldee db f) :
    ¬ NonSoldee db f := by
  intro unpaid
  rw [NonSoldee, paid] at unpaid
  exact absurd unpaid (by decide)

def debit (db : Database) (persoId : String) (prix : Number) : Database :=
  db.change utilisateurs persoId [("balance", .increment (-prix))]

def reglement (db : Database) (f : FactureRef) : Database :=
  db.change (transactions f.resto) f.id [("etat", .value (.string "Soldé"))]

theorem doc?_debit (db : Database) (persoId other : String) (prix : Number) :
    (debit db persoId prix).doc? utilisateurs other =
      if other = persoId then
        (db.doc? utilisateurs other).map (fun d => d.update [("balance", .increment (-prix))])
      else db.doc? utilisateurs other := by
  simp [debit, Database.doc?_change]

@[simp] theorem facture?_debit (db : Database) (persoId : String) (prix : Number)
    (f : FactureRef) : facture? (debit db persoId prix) f = facture? db f := by
  simp [facture?, debit, Database.doc?_change]

theorem facture?_reglement (db : Database) (f g : FactureRef) :
    facture? (reglement db f) g =
      if g = f then
        (facture? db g).map (fun d => d.update [("etat", .value (.string "Soldé"))])
      else facture? db g := by
  obtain ⟨resto, id⟩ := f
  obtain ⟨resto', id'⟩ := g
  simp [facture?, reglement, Database.doc?_change]

theorem doc?_reglement (db : Database) (f : FactureRef) (persoId : String) :
    (reglement db f).doc? utilisateurs persoId = db.doc? utilisateurs persoId := by
  simp [reglement, Database.doc?_change]

@[simp] theorem balance?_reglement (db : Database) (f : FactureRef) (persoId : String) :
    balance? (reglement db f) persoId = balance? db persoId := by
  simp [balance?, doc?_reglement]

@[simp] theorem client?_debit (db : Database) (persoId : String) (prix : Number)
    (f : FactureRef) : client? (debit db persoId prix) f = client? db f := by
  simp [client?]

@[simp] theorem etat?_debit (db : Database) (persoId : String) (prix : Number)
    (f : FactureRef) : etat? (debit db persoId prix) f = etat? db f := by
  simp [etat?]

@[simp] theorem prix?_debit (db : Database) (persoId : String) (p : Number)
    (f : FactureRef) : prix? (debit db persoId p) f = prix? db f := by
  simp [prix?]

@[simp] theorem client?_reglement (db : Database) (f g : FactureRef) :
    client? (reglement db f) g = client? db g := by
  simp only [client?, facture?_reglement]
  split
  · cases facture? db g with
    | none => rfl
    | some d => exact Doc.string?_other d "etat" _ (by decide)
  · rfl

@[simp] theorem prix?_reglement (db : Database) (f g : FactureRef) :
    prix? (reglement db f) g = prix? db g := by
  simp only [prix?, facture?_reglement]
  split
  · cases facture? db g with
    | none => rfl
    | some d => exact Doc.number?_other d "etat" _ (by decide)
  · rfl

theorem etat?_reglement (db : Database) (f g : FactureRef) (present : (facture? db f).isSome) :
    etat? (reglement db f) g = if g = f then some "Soldé" else etat? db g := by
  simp only [etat?, facture?_reglement]
  split
  · rename_i same
    subst same
    obtain ⟨d, found⟩ := Option.isSome_iff_exists.mp present
    simp [found, Doc.string?, Doc.update_single, FieldValue.apply]
  · rfl

@[simp] theorem soldee_debit (db : Database) (persoId : String) (prix : Number)
    (f : FactureRef) : Soldee (debit db persoId prix) f ↔ Soldee db f := by
  rw [Soldee, Soldee, etat?_debit]

theorem soldee_reglement (db : Database) (f g : FactureRef) (present : (facture? db f).isSome) :
    Soldee (reglement db f) g ↔ g = f ∨ Soldee db g := by
  rw [Soldee, Soldee, etat?_reglement db f g present]
  by_cases same : g = f
  · simp [same]
  · simp [same]

theorem balance?_debit (db : Database) (persoId other : String) (prix : Number)
    (numeric : (balance? db persoId).isSome) :
    balance? (debit db persoId prix) other =
      if other = persoId then (balance? db other).map (fun b => b.decrease prix)
      else balance? db other := by
  simp only [balance?, doc?_debit]
  split
  · rename_i same
    subst same
    simp only [balance?, Option.isSome_bind, Option.any_eq_true] at numeric
    obtain ⟨d, found, isNumber⟩ := numeric
    obtain ⟨stored, holds⟩ := Option.isSome_iff_exists.mp isNumber
    simp [found, holds, Doc.number?_increment d "balance" stored (-prix) holds, Number.decrease]
  · rfl

end EWallet
