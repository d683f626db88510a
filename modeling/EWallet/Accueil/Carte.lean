import EWallet.Authentification.GrandLivre

namespace EWallet.Accueil

open Firestore Facture Authentification

structure Snapshot where
  hasError : Bool
  data : Option (Option Doc)
  done : Bool

inductive Ecran where
  | texte (message : String)
  | attente
  | carte (balance : Value) (name : Option String)
  | exception

/-- `Text` on a value: one that is no text throws. A null one fails an assertion, which only some
builds of the application check; the others show nothing. -/
def text (assertions : Bool) : Value → Option (Option String)
  | .string name => some (some name)
  | .null => if assertions then none else some none
  | _ => none

def buildVisaCard (assertions : Bool) : Option (Option Doc) → Ecran
  | some (some monCompte) =>
      match text assertions (monCompte.field "name") with
      | some name => .carte (monCompte.field "balance") name
      | none => .exception
  | _ => .exception

/-- The card waits for a stream that has ended, not for one that has yet to answer: until the
first document it throws. -/
def visaCard (assertions : Bool) (snapshot : Snapshot) : Ecran :=
  if snapshot.hasError then .texte "Quelque chose ne va pas, rechargez la page !"
  else
    match snapshot.data with
    | some none => .texte "Document does not exist"
    | data => if snapshot.done then .attente else buildVisaCard assertions data

def carteDe (assertions : Bool) (db : Database) (uid : String) : Ecran :=
  visaCard assertions ⟨false, some (db.doc? utilisateurs uid), false⟩

def carteDuCompte (assertions : Bool) : Option Compte → Ecran
  | none => .texte "Document does not exist"
  | some ⟨balance, .string name⟩ => .carte balance (some name)
  | some ⟨balance, .null⟩ => if assertions then .exception else .carte balance none
  | some _ => .exception

theorem carteDe_compte (assertions : Bool) (db : Database) (uid : String) :
    carteDe assertions db uid = carteDuCompte assertions (compte db uid) := by
  simp only [carteDe, visaCard, compte, Bool.false_eq_true, if_false]
  cases db.doc? utilisateurs uid with
  | none => rfl
  | some d =>
      simp only [buildVisaCard, Option.map_some]
      cases d.field "name" with
      | null => cases assertions <;> rfl
      | string name => rfl
      | bool b => rfl
      | number n => rfl
      | timestamp t => rfl
      | array items => rfl
      | map fields => rfl

theorem carteDuCompte_exception_iff (assertions : Bool) (compte : Option Compte) :
    carteDuCompte assertions compte = .exception ↔
      ∃ c, compte = some c ∧ (∀ name, c.nom ≠ .string name) ∧
        (c.nom = .null → assertions = true) := by
  cases compte with
  | none => simp [carteDuCompte]
  | some c =>
      obtain ⟨balance, nom⟩ := c
      cases nom with
      | null => cases assertions <;> simp [carteDuCompte]
      | string name => simp [carteDuCompte]
      | bool b => simp [carteDuCompte]
      | number n => simp [carteDuCompte]
      | timestamp t => simp [carteDuCompte]
      | array items => simp [carteDuCompte]
      | map fields => simp [carteDuCompte]

example : (match carteDe true (Machine.run step (debut baseAda [Authentification.ada] none).etat
    retour).store "u" with
    | .carte (.number n) name => some (n, name)
    | _ => none) = some (.int 0, some "Ada") := by decide +kernel

end EWallet.Accueil
