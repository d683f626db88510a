import EWallet.Facture.Continuer

namespace EWallet.Authentification

open Firestore Facture

structure User where
  uid : String
  email : String
  displayName : Option String
  phoneNumber : Option String
  deriving DecidableEq

def profil (user : User) (name phoneNumber : Value) : Doc :=
  Doc.ofFields [("name", name), ("persoId", .string user.uid), ("email", .string user.email),
    ("password", .string "000000"), ("phoneNumber", phoneNumber), ("photoURL", .string ""),
    ("numAccount", .string ""), ("country", .string ""), ("balance", .number (.int 0)),
    ("historiqueTransaction", .map [("entrees", .null), ("sorties", .null)])]

def googleUserSetup (user : User) : Doc :=
  profil user (.nullable user.displayName) (.nullable user.phoneNumber)

def emailUserSetup (user : User) (name phone : String) : Doc :=
  profil user (.string name) (.string phone)

/-- A call on its way. Of all these only the `signOut` of a registration is awaited: it carries the
uid of the new account. -/
inductive Requete where
  | googleSetup (user : User)
  | emailSetup (user : User) (name phone : String)
  | updateDisplayName (uid name : String)
  | signOut (inscrit : Option String)

structure Run where
  persoId : String
  restoId : String
  etape : Etape

/-- The store, the accounts, and one device: its Firebase session, the user its `MainScreen`
was opened for, and what it has not awaited. -/
structure Etat where
  store : Database
  comptes : List User
  currentUser : Option User
  mainScreen : Option User
  enVol : List Requete
  runs : List Run

structure GoogleSignInAccount where
  email : String
  displayName : Option String
  uid : String

inductive Action where
  | initializeFirebase
  | signInWithGoogle (choisi : Option GoogleSignInAccount)
  | signInWithEmailAndPassword (email : String) (motDePasseJuste : Bool)
  | register (email name phone uid : String)
  | googleSignOut (reussi : Bool)
  | aboutir (k : ℕ)
  | echouer (k : ℕ)
  | payer (restoId : String)
  | payerAilleurs (persoId restoId : String)
  | avancer (k : ℕ)
  | crediter (uid : String) (montant : Number)

def uids (comptes : List User) : List String := comptes.map User.uid

def signInWithCredential (comptes : List User) (choisi : GoogleSignInAccount) :
    Option (User × List User) :=
  -- a returning user gets the account that exists, a new one a fresh uid
  match comptes.find? (fun user => user.email = choisi.email) with
  | some user => some (user, comptes)
  | none =>
      if choisi.uid ∈ uids comptes then none
      else
        let user : User := ⟨choisi.uid, choisi.email, choisi.displayName, none⟩
        some (user, comptes ++ [user])

/-- The Google button: `googleUserSetup` is called on every sign-in and not awaited. After a
cancelled or failed sign-in it is called on null, and its error stays in the future. -/
def signInWithGoogle (s : Etat) : Option GoogleSignInAccount → Etat
  | none => s
  | some choisi =>
      match signInWithCredential s.comptes choisi with
      | none => s
      | some (user, comptes) =>
          { s with
            comptes := comptes
            currentUser := some user
            mainScreen := some user
            enVol := s.enVol ++ [.googleSetup user] }

/-- `signOut()` is not awaited before the sign-in; a refused sign-in throws. -/
def signInWithEmailAndPassword (s : Etat) (email : String) (motDePasseJuste : Bool) : Etat :=
  match s.comptes.find? (fun user => user.email = email), motDePasseJuste with
  | some user, true =>
      { s with
        currentUser := some user
        mainScreen := some user
        enVol := s.enVol ++ [.signOut none] }
  | _, _ => { s with enVol := s.enVol ++ [.signOut none] }

/-- Firebase refuses an e-mail in use; the handler then throws before it writes anything. -/
def register (s : Etat) (email name phone uid : String) : Etat :=
  if email ∈ s.comptes.map User.email ∨ uid ∈ uids s.comptes then s
  else
    let user : User := ⟨uid, email, none, none⟩
    { s with
      comptes := s.comptes ++ [user]
      currentUser := some user
      enVol := s.enVol ++ [.updateDisplayName uid name, .emailSetup user name phone,
        .signOut (some uid)] }

def renommer (uid name : String) (user : User) : User :=
  if user.uid = uid then { user with displayName := some name } else user

def traiter (s : Etat) : Requete → Etat
  | .googleSetup user =>
      { s with store := s.store.set utilisateurs user.uid (googleUserSetup user) }
  | .emailSetup user name phone =>
      { s with store := s.store.set utilisateurs user.uid (emailUserSetup user name phone) }
  | .updateDisplayName uid name => { s with comptes := s.comptes.map (renommer uid name) }
  | .signOut _ => { s with currentUser := none }

def avancer (s : Etat) (k : ℕ) : Etat :=
  match s.runs[k]? with
  | none => s
  | some run =>
      let suite := continuer run.persoId run.restoId s.store run.etape
      { s with store := suite.1, runs := s.runs.set k { run with etape := suite.2 } }

def step (s : Etat) : Action → Etat
  | .initializeFirebase => { s with mainScreen := s.currentUser.or s.mainScreen }
  | .signInWithGoogle choisi => signInWithGoogle s choisi
  | .signInWithEmailAndPassword email juste => signInWithEmailAndPassword s email juste
  | .register email name phone uid => register s email name phone uid
  | .googleSignOut reussi =>
      { s with currentUser := if reussi then none else s.currentUser, mainScreen := none }
  | .aboutir k =>
      match s.enVol[k]? with
      | none => s
      | some requete => traiter { s with enVol := s.enVol.eraseIdx k } requete
  | .echouer k => { s with enVol := s.enVol.eraseIdx k }
  | .payer restoId =>
      match s.mainScreen with
      | none => s
      | some user => { s with runs := s.runs ++ [⟨user.uid, restoId, .debut⟩] }
  | .payerAilleurs persoId restoId => { s with runs := s.runs ++ [⟨persoId, restoId, .debut⟩] }
  | .avancer k => avancer s k
  | .crediter uid montant =>
      { s with store := s.store.change utilisateurs uid [("balance", .increment montant)] }

def depart (db : Database) (comptes : List User) (currentUser : Option User) : Etat :=
  ⟨db, comptes, currentUser, none, [], []⟩

end EWallet.Authentification
