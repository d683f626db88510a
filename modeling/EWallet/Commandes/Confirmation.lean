import EWallet.Collections
import EWallet.Commandes.Appareil

namespace EWallet.Commandes

open Firestore

structure Utilisateur where
  persoId : String
  nom : Option String
  deriving DecidableEq

def document (user : Utilisateur) (restoId : String) (maintenant : ℤ)
    (commande : CommandeNewVersion) : Doc :=
  Doc.ofFields [("categorie", .nullable commande.categorie), ("date", .timestamp maintenant),
    ("etat", .number (.double (.ofRat (1 / 20)))), ("id du restaurant", .string restoId),
    ("nom", .string commande.nomMenu), ("nom du client", .nullable user.nom),
    ("id du client", .string user.persoId), ("numero de table", .string "7"),
    ("prix", .number (.int commande.prix)), ("quantite", .number (.int commande.quantite))]

/-- A call of `add`, not awaited. -/
structure Ajout where
  restoId : String
  data : Doc

def Ajout.chemin (ajout : Ajout) : Path := commandes ajout.restoId

/-- The calls that one tap on 'Oui' makes: one for each line, in the order of the cart. -/
def confirmer (user : Utilisateur) (restoId : String) (horloge : ℕ → ℤ)
    (lignes : List CommandeNewVersion) : List Ajout :=
  lignes.mapIdx (fun i commande => ⟨restoId, document user restoId (horloge i) commande⟩)

def ajouts (user : Utilisateur) (d : Appareil) : Action → List Ajout
  | .oui page horloge =>
      match d.dialogue page with
      | none => []
      | some p => confirmer user p.restoId horloge d.lignes
  | _ => []

/-- The assignment of a field to a variable of type `String`: null passes, any other value that
is no string throws. -/
def enTexte : Value → Option (Option String)
  | .null => some none
  | .string s => some (some s)
  | _ => none

def enNum : Value → Option (Option Number)
  | .null => some none
  | .number n => some (some n)
  | _ => none

def enInt : Value → Option (Option ℤ)
  | .null => some none
  | .number (.int n) => some (some n)
  | _ => none

def enTimestamp : Value → Option ℤ
  | .timestamp t => some t
  | _ => none

structure MenuInfoCommande where
  nom : Option String
  categorie : Option String
  prix : Option Number
  quantite : Option ℤ
  deriving DecidableEq

def menuInfoforCommande (data : Doc) : Option MenuInfoCommande := do
  let nom ← enTexte (data.field "nom")
  let categorie ← enTexte (data.field "categorie")
  let prix ← enNum (data.field "prix")
  let quantite ← enInt (data.field "quantite")
  return ⟨nom, categorie, prix, quantite⟩

def setDuree (ecoule : ℤ) : String :=
  let minutes := ecoule.tdiv 60000000
  let heures := ecoule.tdiv 3600000000
  if minutes = 0 then "A l'instant"
  else if minutes > 0 ∧ minutes < 60 then
    "Il y a " ++ toString minutes ++ (if minutes = 1 then " minute" else " minutes")
  else "Il y a " ++ toString heures ++ (if heures = 1 then " heure" else " heures")

structure CommandeEnCours where
  commandeId : String
  plat : MenuInfoCommande
  clientNom : Option String
  tableNum : Option String
  etat : Option Number
  date : ℤ
  idRestaurant : Option String
  duree : String
  deriving DecidableEq

/-- `CommandeNewVersion.testClient`; `fromTimestamp` goes through the local time of the device. -/
def testClient (fromTimestamp : ℤ → ℤ) (maintenant : ℤ) (entry : String × Doc) :
    Option CommandeEnCours := do
  let plat ← menuInfoforCommande entry.2
  let clientNom ← enTexte (entry.2.field "nom du client")
  let tableNum ← enTexte (entry.2.field "numero de table")
  let etat ← enNum (entry.2.field "etat")
  let date ← enTimestamp (entry.2.field "date")
  let idRestaurant ← enTexte (entry.2.field "id du restaurant")
  return ⟨entry.1, plat, clientNom, tableNum, etat, fromTimestamp date, idRestaurant,
    setDuree (maintenant - fromTimestamp date)⟩

def mesCommandes (db : Database) (persoId restoId : String) : List (String × Doc) :=
  db.query (commandes restoId) [("id du client", persoId)]

def CommandeNewVersion.info (commande : CommandeNewVersion) : MenuInfoCommande :=
  ⟨some commande.nomMenu, commande.categorie, some (.int commande.prix), some commande.quantite⟩

@[simp] theorem enTexte_nullable (s : Option String) : enTexte (.nullable s) = some s := by
  cases s <;> rfl

@[simp] theorem enTexte_string (s : String) : enTexte (.string s) = some (some s) := rfl

@[simp] theorem enNum_number (n : Number) : enNum (.number n) = some (some n) := rfl

@[simp] theorem enInt_int (n : ℤ) : enInt (.number (.int n)) = some (some n) := rfl

@[simp] theorem enTimestamp_timestamp (t : ℤ) : enTimestamp (.timestamp t) = some t := rfl

theorem menuInfoforCommande_document (user : Utilisateur) (restoId : String) (maintenant : ℤ)
    (commande : CommandeNewVersion) :
    menuInfoforCommande (document user restoId maintenant commande) = some commande.info := by
  simp [menuInfoforCommande, document, Doc.field, Doc.ofFields, List.lookup_cons,
    CommandeNewVersion.info]

theorem testClient_document (fromTimestamp : ℤ → ℤ) (maintenant now : ℤ) (id restoId : String)
    (user : Utilisateur) (commande : CommandeNewVersion) :
    testClient fromTimestamp now (id, document user restoId maintenant commande) =
      some ⟨id, commande.info, user.nom, some "7", some (.double (.ofRat (1 / 20))),
        fromTimestamp maintenant, some restoId, setDuree (now - fromTimestamp maintenant)⟩ := by
  rw [testClient, menuInfoforCommande_document]
  simp [document, Doc.field, Doc.ofFields, List.lookup_cons]

theorem document_client (user : Utilisateur) (restoId : String) (maintenant : ℤ)
    (commande : CommandeNewVersion) :
    (document user restoId maintenant commande).string? "id du client" = some user.persoId := by
  simp [document, Doc.string?, Doc.ofFields, List.lookup_cons]

theorem confirmer_cons (user : Utilisateur) (restoId : String) (horloge : ℕ → ℤ)
    (commande : CommandeNewVersion) (rest : List CommandeNewVersion) :
    confirmer user restoId horloge (commande :: rest) =
      ⟨restoId, document user restoId (horloge 0) commande⟩ ::
        confirmer user restoId (fun i => horloge (i + 1)) rest := by
  simp [confirmer, List.mapIdx_cons]

end EWallet.Commandes
