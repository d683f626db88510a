import EWallet.Authentification.Entrees

namespace EWallet.Authentification

open Firestore Facture

/-- The wallets as they should be: nothing but payments and credits touches them. -/
abbrev Attendus := String → Option Doc

def mouvement (attendus : Attendus) (uid : String) (montant : Number) : Attendus :=
  Function.update attendus uid
    ((attendus uid).map (fun d => d.update [("balance", .increment montant)]))

def debitee : Etape → Etape → Option Number
  | .valide _ p _, .debite _ _ _ => some p
  | _, _ => none

def attendre (s : Etat) (attendus : Attendus) : Action → Attendus
  | .crediter uid montant => mouvement attendus uid montant
  | .avancer k =>
      match s.runs[k]? with
      | none => attendus
      | some run =>
          match debitee run.etape (continuer run.persoId run.restoId s.store run.etape).2 with
          | some p => mouvement attendus run.persoId (-p)
          | none => attendus
  | _ => attendus

structure Suivi where
  etat : Etat
  attendus : Attendus

def suivre (s : Suivi) (act : Action) : Suivi :=
  ⟨step s.etat act, attendre s.etat s.attendus act⟩

def debut (db : Database) (comptes : List User) (currentUser : Option User) : Suivi :=
  ⟨depart db comptes currentUser, fun uid => db.doc? utilisateurs uid⟩

def Connu (db : Database) (comptes : List User) (uid : String) : Prop :=
  uid ∈ uids comptes ∧ (db.doc? utilisateurs uid).isSome

/-- Every wallet that existed at the start holds what it should. -/
def Fidele (db : Database) (comptes : List User) (s : Suivi) : Prop :=
  ∀ uid, Connu db comptes uid → s.etat.store.doc? utilisateurs uid = s.attendus uid

/-- A write of `googleUserSetup` that lands on a wallet of the start finds there what it writes. -/
def SansEcrasement (db : Database) (comptes : List User) (s : Suivi) (act : Action) : Prop :=
  ∀ k user, act = .aboutir k → s.etat.enVol[k]? = some (.googleSetup user) →
    Connu db comptes user.uid →
      s.etat.store.doc? utilisateurs user.uid = some (googleUserSetup user)

structure Invariant (comptes : List User) (s : Etat) : Prop where
  gardes : ∀ uid ∈ uids comptes, uid ∈ uids s.comptes
  nouveaux : ∀ user name phone, .emailSetup user name phone ∈ s.enVol → user.uid ∉ uids comptes

theorem uids_append (front back : List User) : uids (front ++ back) = uids front ++ uids back :=
  List.map_append

theorem uids_renommer (comptes : List User) (uid name : String) :
    uids (comptes.map (renommer uid name)) = uids comptes := by
  rw [uids, List.map_map]
  apply List.map_congr_left
  intro user _
  simp only [Function.comp_apply, renommer]
  split
  · rfl
  · rfl

theorem invariant_depart (db : Database) (comptes : List User) (currentUser : Option User) :
    Invariant comptes (depart db comptes currentUser) where
  gardes _ member := member
  nouveaux _ _ _ pending := absurd pending List.not_mem_nil

theorem invariant_of_sublist {comptes : List User} {s s' : Etat} (inv : Invariant comptes s)
    (same : ∀ uid, uid ∈ uids s.comptes → uid ∈ uids s'.comptes)
    (pending : ∀ user name phone, .emailSetup user name phone ∈ s'.enVol →
      .emailSetup user name phone ∈ s.enVol) : Invariant comptes s' where
  gardes uid member := same uid (inv.gardes uid member)
  nouveaux user name phone member := inv.nouveaux user name phone (pending user name phone member)

theorem signInWithCredential_gardes (comptes : List User) (choisi : GoogleSignInAccount)
    (user : User) (comptes' : List User)
    (signed : signInWithCredential comptes choisi = some (user, comptes')) (uid : String)
    (member : uid ∈ uids comptes) : uid ∈ uids comptes' := by
  unfold signInWithCredential at signed
  split at signed
  · cases signed
    exact member
  · split at signed
    · cases signed
    · cases signed
      rw [uids_append]
      exact List.mem_append_left _ member

theorem invariant_google (comptes : List User) (s : Etat) (inv : Invariant comptes s)
    (choisi : Option GoogleSignInAccount) : Invariant comptes (signInWithGoogle s choisi) := by
  cases choisi with
  | none => exact inv
  | some choisi =>
      simp only [signInWithGoogle]
      split
      · exact inv
      · rename_i user comptes' signed
        apply invariant_of_sublist inv
        · exact signInWithCredential_gardes s.comptes choisi user comptes' signed
        · intro u name phone member
          simpa using member

theorem invariant_email (comptes : List User) (s : Etat) (inv : Invariant comptes s)
    (email : String) (juste : Bool) :
    Invariant comptes (signInWithEmailAndPassword s email juste) := by
  unfold signInWithEmailAndPassword
  split
  · exact invariant_of_sublist inv (fun _ member => member) (by simp)
  · exact invariant_of_sublist inv (fun _ member => member) (by simp)

theorem invariant_register (comptes : List User) (s : Etat) (inv : Invariant comptes s)
    (email name phone uid : String) : Invariant comptes (register s email name phone uid) := by
  unfold register
  split
  · exact inv
  · rename_i accepted
    rw [not_or] at accepted
    refine ⟨fun other member => ?_, fun user name' phone' member => ?_⟩
    · simp only [uids_append]
      exact List.mem_append_left _ (inv.gardes other member)
    · simp only [List.mem_append, List.mem_cons, Requete.emailSetup.injEq, reduceCtorEq,
        List.not_mem_nil, false_or, or_false] at member
      rcases member with old | ⟨rfl, _, _⟩
      · exact inv.nouveaux user name' phone' old
      · exact fun known => accepted.2 (inv.gardes uid known)

theorem traiter_enVol (s : Etat) (requete : Requete) : (traiter s requete).enVol = s.enVol := by
  cases requete <;> rfl

theorem traiter_uids (s : Etat) (requete : Requete) :
    uids (traiter s requete).comptes = uids s.comptes := by
  cases requete with
  | googleSetup user => rfl
  | emailSetup user name phone => rfl
  | updateDisplayName uid name => exact uids_renommer s.comptes uid name
  | signOut inscrit => rfl

theorem avancer_comptes (s : Etat) (k : ℕ) :
    (avancer s k).comptes = s.comptes ∧ (avancer s k).enVol = s.enVol := by
  unfold avancer
  split
  · exact ⟨rfl, rfl⟩
  · exact ⟨rfl, rfl⟩

theorem invariant_step (comptes : List User) (s : Etat) (act : Action)
    (inv : Invariant comptes s) : Invariant comptes (step s act) := by
  cases act with
  | initializeFirebase => exact invariant_of_sublist inv (fun _ h => h) (fun _ _ _ h => h)
  | signInWithGoogle choisi => exact invariant_google comptes s inv choisi
  | signInWithEmailAndPassword email juste => exact invariant_email comptes s inv email juste
  | register email name phone uid => exact invariant_register comptes s inv email name phone uid
  | googleSignOut reussi => exact invariant_of_sublist inv (fun _ h => h) (fun _ _ _ h => h)
  | aboutir k =>
      simp only [step]
      split
      · exact inv
      · apply invariant_of_sublist inv
        · intro uid member
          rw [traiter_uids]
          exact member
        · intro user name phone member
          rw [traiter_enVol] at member
          exact List.mem_of_mem_eraseIdx member
  | echouer k =>
      exact invariant_of_sublist inv (fun _ h => h) (fun _ _ _ h => List.mem_of_mem_eraseIdx h)
  | payer restoId =>
      simp only [step]
      split
      · exact inv
      · exact invariant_of_sublist inv (fun _ h => h) (fun _ _ _ h => h)
  | payerAilleurs persoId restoId =>
      exact invariant_of_sublist inv (fun _ h => h) (fun _ _ _ h => h)
  | avancer k =>
      obtain ⟨accounts, pending⟩ := avancer_comptes s k
      apply invariant_of_sublist inv
      · intro uid member
        rw [step, accounts]
        exact member
      · intro user name phone member
        rw [step, pending] at member
        exact member
  | crediter uid montant => exact invariant_of_sublist inv (fun _ h => h) (fun _ _ _ h => h)

theorem doc?_continuer (run : Run) (db : Database) (uid : String) :
    (continuer run.persoId run.restoId db run.etape).1.doc? utilisateurs uid =
      match debitee run.etape (continuer run.persoId run.restoId db run.etape).2 with
      | some p => mouvement (fun u => db.doc? utilisateurs u) run.persoId (-p) uid
      | none => db.doc? utilisateurs uid := by
  have pas := pas_continuer run.persoId run.restoId db run.etape
  generalize (continuer run.persoId run.restoId db run.etape).1 = db' at pas
  generalize (continuer run.persoId run.restoId db run.etape).2 = e' at pas
  generalize run.etape = e at pas
  cases pas with
  | debit b p id present =>
      rw [doc?_debit]
      simp only [debitee, mouvement, Function.update_apply]
      split
      · rename_i own
        rw [own]
      · rfl
  | reglement b p id present => exact doc?_reglement _ _ _
  | lecture data found => rfl
  | selection b p id data first price enough => rfl
  | refus b p id data first price short => rfl
  | exception _ going before => cases e <;> rfl
  | echecDebit b p id absent => rfl
  | echecReglement b p id absent => rfl
  | repos _ done => cases e' <;> rfl

theorem store_google (s : Etat) (choisi : Option GoogleSignInAccount) :
    (signInWithGoogle s choisi).store = s.store := by
  cases choisi with
  | none => rfl
  | some choisi =>
      simp only [signInWithGoogle]
      split
      · rfl
      · rfl

theorem store_email (s : Etat) (email : String) (juste : Bool) :
    (signInWithEmailAndPassword s email juste).store = s.store := by
  unfold signInWithEmailAndPassword
  split
  · rfl
  · rfl

theorem store_register (s : Etat) (email name phone uid : String) :
    (register s email name phone uid).store = s.store := by
  unfold register
  split
  · rfl
  · rfl

variable (db : Database) (comptes : List User)

theorem fidele_of_store (s s' : Suivi) (fidele : Fidele db comptes s)
    (store : s'.etat.store = s.etat.store) (attendus : s'.attendus = s.attendus) :
    Fidele db comptes s' := by
  intro uid connu
  rw [store, attendus]
  exact fidele uid connu

theorem fidele_traiter (s : Suivi) (inv : Invariant comptes s.etat) (fidele : Fidele db comptes s)
    (k : ℕ) (requete : Requete) (pending : s.etat.enVol[k]? = some requete) :
    Fidele db comptes (suivre s (.aboutir k)) ↔
      ∀ user, requete = .googleSetup user → Connu db comptes user.uid →
        s.etat.store.doc? utilisateurs user.uid = some (googleUserSetup user) := by
  have result : suivre s (.aboutir k) =
      ⟨traiter { s.etat with enVol := s.etat.enVol.eraseIdx k } requete, s.attendus⟩ := by
    simp only [suivre, step, pending, attendre]
  rw [result]
  cases requete with
  | googleSetup user =>
      constructor
      · intro after other same connu
        cases same
        have landed := after user.uid connu
        simp only [traiter, Database.doc?_set, and_self, if_true] at landed
        rw [fidele user.uid connu, ← landed]
      · intro same uid connu
        simp only [traiter, Database.doc?_set, true_and]
        split
        · rename_i own
          subst own
          rw [← fidele user.uid connu, same user rfl connu]
        · exact fidele uid connu
  | emailSetup user name phone =>
      refine iff_of_true ?_ (by simp)
      intro uid connu
      have fresh := inv.nouveaux user name phone (List.mem_of_getElem? pending)
      have other : uid ≠ user.uid := by
        intro same
        exact fresh (same ▸ connu.1)
      simp only [traiter, Database.doc?_set, other, and_false, if_false]
      exact fidele uid connu
  | updateDisplayName uid name => exact iff_of_true fidele (by simp)
  | signOut inscrit => exact iff_of_true fidele (by simp)

theorem fidele_avancer (s : Suivi) (fidele : Fidele db comptes s) (k : ℕ) :
    Fidele db comptes (suivre s (.avancer k)) := by
  intro uid connu
  simp only [suivre, step, avancer, attendre]
  cases at_ : s.etat.runs[k]? with
  | none => exact fidele uid connu
  | some run =>
      simp only [doc?_continuer]
      cases debitee run.etape
          (continuer run.persoId run.restoId s.etat.store run.etape).2 with
      | none => exact fidele uid connu
      | some p =>
          simp only [mouvement, Function.update_apply]
          split
          · rename_i own
            subst own
            rw [fidele _ connu]
          · exact fidele uid connu

theorem fidele_crediter (s : Suivi) (fidele : Fidele db comptes s) (uid : String)
    (montant : Number) : Fidele db comptes (suivre s (.crediter uid montant)) := by
  intro other connu
  simp only [suivre, step, attendre, mouvement, Database.doc?_change, true_and,
    Function.update_apply]
  split
  · rename_i own
    subst own
    rw [fidele _ connu]
  · exact fidele other connu

theorem fidele_aboutir (s : Suivi) (inv : Invariant comptes s.etat) (fidele : Fidele db comptes s)
    (k : ℕ) : Fidele db comptes (suivre s (.aboutir k)) ↔
      SansEcrasement db comptes s (.aboutir k) := by
  cases pending : s.etat.enVol[k]? with
  | none =>
      refine iff_of_true ?_ ?_
      · apply fidele_of_store db comptes s _ fidele
        · simp only [suivre, step, pending]
        · rfl
      · intro k' user same found
        cases same
        rw [pending] at found
        cases found
  | some requete =>
      rw [fidele_traiter db comptes s inv fidele k requete pending]
      constructor
      · intro landed k' user same found
        cases same
        rw [pending] at found
        exact landed user (Option.some.inj found)
      · intro landed user same
        exact landed k user rfl (by rw [pending, same])

theorem fidele_step (s : Suivi) (act : Action) (inv : Invariant comptes s.etat)
    (fidele : Fidele db comptes s) :
    Fidele db comptes (suivre s act) ↔ SansEcrasement db comptes s act := by
  have quiet : (∀ k, act ≠ .aboutir k) → Fidele db comptes (suivre s act) →
      (Fidele db comptes (suivre s act) ↔ SansEcrasement db comptes s act) := by
    intro other kept
    exact iff_of_true kept (fun k _ same => absurd same (other k))
  have frame := fidele_of_store db comptes s (suivre s act) fidele
  cases act with
  | aboutir k => exact fidele_aboutir db comptes s inv fidele k
  | initializeFirebase => exact quiet (by simp) (frame rfl rfl)
  | signInWithGoogle choisi => exact quiet (by simp) (frame (store_google s.etat choisi) rfl)
  | signInWithEmailAndPassword email juste =>
      exact quiet (by simp) (frame (store_email s.etat email juste) rfl)
  | register email name phone uid =>
      exact quiet (by simp) (frame (store_register s.etat email name phone uid) rfl)
  | googleSignOut reussi => exact quiet (by simp) (frame rfl rfl)
  | echouer k => exact quiet (by simp) (frame rfl rfl)
  | payer restoId =>
      apply quiet (by simp)
      apply frame _ rfl
      simp only [suivre, step]
      split
      · rfl
      · rfl
  | payerAilleurs persoId restoId => exact quiet (by simp) (frame rfl rfl)
  | avancer k => exact quiet (by simp) (fidele_avancer db comptes s fidele k)
  | crediter uid montant => exact quiet (by simp) (fidele_crediter db comptes s fidele uid montant)

/-- Along a whole history the wallets that existed at the start hold, in every field, what they
held and what payments and credits made of it, if and only if no write of `googleUserSetup`
lands on one of them that differs from what it writes. -/
theorem wallets_kept_iff_no_overwrite (currentUser : Option User) (actions : List Action) :
    (∀ front back, actions = front ++ back →
      Fidele db comptes (Machine.run suivre (debut db comptes currentUser) front)) ↔
      Machine.Along suivre (SansEcrasement db comptes) (debut db comptes currentUser) actions := by
  rw [← Machine.always_iff_prefixes]
  apply Machine.always_iff_along suivre (fun s => Invariant comptes s.etat)
  · exact fun s act inv => invariant_step comptes s.etat act inv
  · exact fun s act inv fidele => fidele_step db comptes s act inv fidele
  · exact invariant_depart db comptes currentUser
  · exact fun _ _ => rfl

section Retour

def ada : User := ⟨"u", "ada@mail.ci", some "Ada", none⟩

def baseAda : Database
  | ["utilisateurs"] => OrderedMap.single "u"
      ((emailUserSetup ada "Ada" "0102030405").update [("balance", .increment (.int 500))])
  | _ => OrderedMap.empty

def retour : List Action :=
  [.signInWithGoogle (some ⟨"ada@mail.ci", some "Ada", "v"⟩), .aboutir 0]

/-- She signs in with Google: the account is emptied and the phone number is lost. -/
theorem google_sign_in_empties_wallet :
    balance? baseAda "u" = some (.int 500) ∧
      balance? (Machine.run suivre (debut baseAda [ada] none) retour).etat.store "u" =
        some (.int 0) ∧
      ¬ Fidele baseAda [ada] (Machine.run suivre (debut baseAda [ada] none) retour) := by
  have before : balance? baseAda "u" = some (.int 500) := by decide +kernel
  have after : balance? (Machine.run suivre (debut baseAda [ada] none) retour).etat.store "u" =
      some (.int 0) := by decide +kernel
  refine ⟨before, after, fun fidele => ?_⟩
  have kept : balance? (Machine.run suivre (debut baseAda [ada] none) retour).etat.store "u" =
      balance? baseAda "u" := by
    rw [balance?, fidele "u" ⟨by decide, by decide⟩]
    rfl
  rw [before, after] at kept
  exact absurd kept (by decide)

end Retour

end EWallet.Authentification
