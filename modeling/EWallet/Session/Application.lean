import EWallet.Commandes.Confirmation
import Mathlib.Data.List.Sort

namespace EWallet.Session

open Firestore Commandes

def menu (restoId : String) (rubrique : Rubrique) : Path :=
  ["restaurants", restoId, rubrique.collection]

/-- The ids read by `fillIdList`, in the order of `orderBy('id')`: a document without the field
is not listed. -/
def favorisDe (db : Database) (persoId : String) : List Value :=
  ((db (restaurantsFav persoId)).entries.filterMap (fun entry => entry.2 "id")).insertionSort
    (fun v w => v.before w)

/-- One device across sessions: the globals `USER`, `repository` and `listeCommande` with the open
pages, the users for whom a `get` of `fillIdList` has not answered yet, and the orders sent
since the last sign-in. -/
structure Application where
  store : Database
  user : Option Utilisateur
  appareil : Appareil
  restoFavIdList : List Value
  isFilled : Bool
  enVol : List String
  envoyes : List Ajout

def demarrage (db : Database) : Application := ⟨db, none, lancement, [], false, [], []⟩

def fillIdList (s : Application) : Application :=
  -- without a user it throws
  match s.user with
  | none => s
  | some u => if s.isFilled then s else { s with enVol := s.enVol ++ [u.persoId] }

def favorisRecus (s : Application) (k : ℕ) : Application :=
  match s.enVol[k]? with
  | none => s
  | some persoId =>
      { s with
        restoFavIdList := s.restoFavIdList ++ favorisDe s.store persoId
        isFilled := true
        enVol := s.enVol.eraseIdx k }

def menuCharge (s : Application) (page : ℕ) : Application :=
  match s.appareil.menus[page]? with
  | none => s
  | some m =>
      let plats := (s.store (menu m.restoId m.rubrique)).entries.map
        (fun entry => buildListItem m.rubrique entry.2)
      { s with appareil := s.appareil.menuRecu page plats }

def agir (s : Application) (act : Action) : Application :=
  match s.user with
  | none => { s with appareil := step s.appareil act }
  | some u =>
      { s with
        appareil := step s.appareil act
        envoyes := s.envoyes ++ ajouts u s.appareil act }

/-- The pages are left, and line objects that nothing refers to are garbage. -/
def fermerPages (d : Appareil) : Appareil where
  objets r := if r ∈ d.listeCommande then d.objets r else default
  listeCommande := d.listeCommande
  menus := []
  commandes := []

/-- Any sign-in ends in `MainScreen.initState`: it sets `USER` and calls `fillIdList`. -/
def connecter (s : Application) (u : Utilisateur) : Application :=
  fillIdList { s with user := some u, appareil := fermerPages s.appareil, envoyes := [] }

/-- `googleSignOut` and the way back to the sign-in page reset none of these globals. -/
def googleSignOut (s : Application) : Application :=
  { s with appareil := fermerPages s.appareil }

/-- What can happen in a session: the favourites page is built, which calls `fillIdList`, a `get`
answers, a category page loads, the user acts, or a collection of the store changes. -/
inductive Geste where
  | listRestoFav
  | favorisRecus (k : ℕ)
  | menuCharge (page : ℕ)
  | agir (act : Action)
  | serveur (path : Path) (docs : OrderedMap String Doc)

def faire (s : Application) : Geste → Application
  | .listRestoFav => fillIdList s
  | .favorisRecus k => favorisRecus s k
  | .menuCharge page => menuCharge s page
  | .agir act => agir s act
  | .serveur path docs => { s with store := Function.update s.store path docs }

inductive Evenement where
  | lancer
  | connecter (u : Utilisateur)
  | googleSignOut
  | geste (g : Geste)

def suivre (s : Application) : Evenement → Application
  | .lancer => demarrage s.store
  | .connecter u => connecter s u
  | .googleSignOut => googleSignOut s
  | .geste g => faire s g

def histoire (db : Database) (events : List Evenement) : Application :=
  Machine.run suivre (demarrage db) events

def session (s : Application) (u : Utilisateur) (gestes : List Geste) : Application :=
  Machine.run faire (connecter s u) gestes

structure Vue where
  wallet : Option Doc
  favoris : List Value
  panier : List CommandeNewVersion
  commandes : List Ajout

def vue (u : Utilisateur) (s : Application) : Vue :=
  ⟨s.store.doc? utilisateurs u.persoId, s.restoFavIdList, s.appareil.lignes, s.envoyes⟩

end EWallet.Session
