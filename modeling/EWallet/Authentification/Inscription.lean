import EWallet.Authentification.Portefeuilles
import Mathlib.Data.List.Perm.Basic

namespace EWallet.Authentification

open Firestore Facture

def longueur (value : String) : ℕ :=
  -- `length` counts UTF-16 code units
  value.toList.foldl (fun n c => if c.toNat < 0x10000 then n + 1 else n + 2) 0

def validerNom (value : String) : Option String :=
  if value.isEmpty ∨ longueur value ≤ 1 then some "Entrez votre nom" else none

def validerRempli (message value : String) : Option String :=
  if value.isEmpty then some message else none

def validerEmail (value : String) : Option String := validerRempli "Entrez votre Email" value

def validerPhone (value : String) : Option String :=
  validerRempli "Entrez votre numero de téléphone" value

def validerPassword (value : String) : Option String :=
  if value.isEmpty then some "Entrez votre mot de passe"
  else if longueur value < 8 then some "Trop court, au moins 8 charactères"
  else none

def validerPassword2 (password value : String) : Option String :=
  -- a password that is not the first one is reported as too short
  if value.isEmpty then some "Reécrirez votre mot de passe"
  else if longueur value < 8 then some "Trop court, au moins 8 charactères"
  else if value ≠ password then some "Trop court, au moins 8 charactères"
  else none

structure RegisterForm where
  nom : String
  email : String
  phone : String
  password : String
  password2 : String

def RegisterForm.validate (form : RegisterForm) : Bool :=
  (validerNom form.nom).isNone && (validerEmail form.email).isNone &&
    (validerPhone form.phone).isNone && (validerPassword form.password).isNone &&
    (validerPassword2 form.password form.password2).isNone

theorem longueur_isEmpty (value : String) (empty : value.isEmpty) : longueur value = 0 := by
  rw [String.isEmpty_iff] at empty
  rw [empty]
  rfl

theorem validerNom_iff (value : String) : validerNom value = none ↔ 2 ≤ longueur value := by
  have empty := longueur_isEmpty value
  rw [validerNom]
  split
  · rename_i refused
    refine iff_of_false (by simp) ?_
    rcases refused with nothing | short
    · have zero := empty nothing
      omega
    · omega
  · rename_i accepted
    rw [not_or] at accepted
    exact iff_of_true rfl (by omega)

theorem validerRempli_iff (message value : String) :
    validerRempli message value = none ↔ value ≠ "" := by
  simp [validerRempli]

theorem validerPassword_iff (value : String) :
    validerPassword value = none ↔ 8 ≤ longueur value := by
  have empty := longueur_isEmpty value
  rw [validerPassword]
  split
  · rename_i nothing
    have zero := empty nothing
    exact iff_of_false (by simp) (by omega)
  · split
    · exact iff_of_false (by simp) (by omega)
    · exact iff_of_true rfl (by omega)

theorem validerPassword2_iff (password value : String) :
    validerPassword2 password value = none ↔ 8 ≤ longueur value ∧ value = password := by
  have empty := longueur_isEmpty value
  rw [validerPassword2]
  split
  · rename_i nothing
    have zero := empty nothing
    exact iff_of_false (by simp) (by omega)
  · split
    · exact iff_of_false (by simp) (by omega)
    · split
      · rename_i different
        exact iff_of_false (by simp) (fun both => different both.2)
      · rename_i same
        exact iff_of_true rfl ⟨by omega, not_ne_iff.mp same⟩

theorem validate_iff (form : RegisterForm) :
    form.validate ↔ 2 ≤ longueur form.nom ∧ form.email ≠ "" ∧ form.phone ≠ "" ∧
      8 ≤ longueur form.password ∧ form.password2 = form.password := by
  simp only [RegisterForm.validate, Bool.and_eq_true, Option.isNone_iff_eq_none, validerNom_iff,
    validerEmail, validerPhone, validerRempli_iff, validerPassword_iff, validerPassword2_iff]
  constructor
  · rintro ⟨⟨⟨⟨nom, email⟩, phone⟩, password⟩, _, same⟩
    exact ⟨nom, email, phone, password, same⟩
  · rintro ⟨nom, email, phone, password, same⟩
    exact ⟨⟨⟨⟨nom, email⟩, phone⟩, password⟩, same ▸ password, same⟩

/-- The button 'S'inscrire': nothing happens on a form that is refused, and nothing but the
exception of `createUserWithEmailAndPassword` when this fails. -/
def envoyer (s : Etat) (form : RegisterForm) (uid : String) (cree : Bool) : Etat :=
  if form.validate && cree then register s form.email form.nom form.phone uid else s

structure Inscription where
  uid : String
  nom : String
  phone : String
  deriving DecidableEq

def ecriture : Requete → Option Inscription
  | .emailSetup user name phone => some ⟨user.uid, name, phone⟩
  | _ => none

def ecritures (enVol : List Requete) : List Inscription := enVol.filterMap ecriture

def inscrite (s : Etat) : Action → Option Inscription
  | .register email name phone uid =>
      if email ∈ s.comptes.map User.email ∨ uid ∈ uids s.comptes then none
      else some ⟨uid, name, phone⟩
  | _ => none

/-- The application together with the registrations whose account was created. -/
structure Registre where
  etat : Etat
  inscriptions : List Inscription

def noter (r : Registre) (act : Action) : Registre :=
  ⟨step r.etat act, r.inscriptions ++ (inscrite r.etat act).toList⟩

/-- The wallet document of a registered user is there, and is as `bon` says. -/
def Tenue (bon : Inscription → Doc → Prop) (db : Database) (i : Inscription) : Prop :=
  ∃ d, db.doc? utilisateurs i.uid = some d ∧ bon i d

def UnDocument (_ : Inscription) (_ : Doc) : Prop := True

def ProfilSaisi (i : Inscription) (d : Doc) : Prop :=
  d.string? "name" = some i.nom ∧ d.string? "phoneNumber" = some i.phone ∧
    d.number? "balance" = some (.int 0)

/-- Each registered user whose profile write is no longer in flight has the document. -/
def Tenues (bon : Inscription → Doc → Prop) (r : Registre) : Prop :=
  ∀ i ∈ r.inscriptions, i ∉ ecritures r.etat.enVol → Tenue bon r.etat.store i

/-- A profile write that fails finds the document already there. -/
def SansPerte (bon : Inscription → Doc → Prop) (s : Etat) (act : Action) : Prop :=
  ∀ k i, act = .echouer k → s.enVol[k]?.bind ecriture = some i → Tenue bon s.store i

structure Ordre (r : Registre) : Prop where
  uniques : (ecritures r.etat.enVol).Nodup
  notees : ∀ i ∈ ecritures r.etat.enVol, i ∈ r.inscriptions
  distinctes : (r.inscriptions.map Inscription.uid).Nodup
  comptes : ∀ i ∈ r.inscriptions, i.uid ∈ uids r.etat.comptes

theorem ecritures_append (front back : List Requete) :
    ecritures (front ++ back) = ecritures front ++ ecritures back := List.filterMap_append

theorem ecritures_retirer (enVol : List Requete) (k : ℕ) (requete : Requete)
    (at_ : enVol[k]? = some requete) :
    ((ecriture requete).toList ++ ecritures (enVol.eraseIdx k)).Perm (ecritures enVol) := by
  obtain ⟨inside, rfl⟩ := List.getElem?_eq_some_iff.mp at_
  have moved := (List.getElem_cons_eraseIdx_perm inside).filterMap ecriture
  rw [List.filterMap_cons] at moved
  rw [ecritures, ecritures]
  cases written : ecriture enVol[k] with
  | none =>
      rw [written] at moved
      exact moved
  | some i =>
      rw [written] at moved
      exact moved

theorem mem_ecritures_retirer (enVol : List Requete) (k : ℕ) (requete : Requete)
    (at_ : enVol[k]? = some requete) (i : Inscription) :
    i ∈ ecritures enVol ↔ ecriture requete = some i ∨ i ∈ ecritures (enVol.eraseIdx k) := by
  rw [← (ecritures_retirer enVol k requete at_).mem_iff, List.mem_append, Option.mem_toList]

theorem noter_aboutir (r : Registre) (k : ℕ) :
    (r.etat.enVol[k]? = none ∧ noter r (.aboutir k) = r) ∨
    ∃ requete, r.etat.enVol[k]? = some requete ∧ noter r (.aboutir k) =
      ⟨traiter { r.etat with enVol := r.etat.enVol.eraseIdx k } requete, r.inscriptions⟩ := by
  cases at_ : r.etat.enVol[k]? with
  | none => exact Or.inl ⟨rfl, by simp [noter, step, at_, inscrite]⟩
  | some requete => exact Or.inr ⟨requete, rfl, by simp [noter, step, at_, inscrite]⟩

theorem noter_echouer (r : Registre) (k : ℕ) :
    noter r (.echouer k) = ⟨{ r.etat with enVol := r.etat.enVol.eraseIdx k }, r.inscriptions⟩ := by
  simp [noter, step, inscrite]

theorem doc?_traiter (s : Etat) (requete : Requete) (uid : String) :
    (traiter s requete).store.doc? utilisateurs uid =
      match requete with
      | .googleSetup user =>
          if uid = user.uid then some (googleUserSetup user) else s.store.doc? utilisateurs uid
      | .emailSetup user name phone =>
          if uid = user.uid then some (emailUserSetup user name phone)
          else s.store.doc? utilisateurs uid
      | _ => s.store.doc? utilisateurs uid := by
  cases requete with
  | googleSetup user => simp [traiter, Database.doc?_set]
  | emailSetup user name phone => simp [traiter, Database.doc?_set]
  | updateDisplayName uid name => rfl
  | signOut inscrit => rfl

theorem ordre_of_sublist {r r' : Registre} (ordre : Ordre r)
    (same : r'.inscriptions = r.inscriptions)
    (pending : (ecritures r'.etat.enVol).Sublist (ecritures r.etat.enVol))
    (accounts : ∀ uid ∈ uids r.etat.comptes, uid ∈ uids r'.etat.comptes) : Ordre r' where
  uniques := ordre.uniques.sublist pending
  notees i member := same ▸ ordre.notees i (pending.subset member)
  distinctes := same ▸ ordre.distinctes
  comptes i member := accounts i.uid (ordre.comptes i (same ▸ member))

theorem ecritures_eraseIdx (enVol : List Requete) (k : ℕ) :
    (ecritures (enVol.eraseIdx k)).Sublist (ecritures enVol) :=
  (List.eraseIdx_sublist enVol k).filterMap ecriture

theorem ordre_echouer (r : Registre) (ordre : Ordre r) (k : ℕ) :
    Ordre (noter r (.echouer k)) := by
  rw [noter_echouer]
  exact ordre_of_sublist ordre rfl (ecritures_eraseIdx _ k) (fun _ member => member)

theorem ordre_aboutir (r : Registre) (ordre : Ordre r) (k : ℕ) :
    Ordre (noter r (.aboutir k)) := by
  rcases noter_aboutir r k with ⟨_, same⟩ | ⟨requete, _, landed⟩
  · rw [same]
    exact ordre
  · rw [landed]
    refine ordre_of_sublist ordre rfl ?_ ?_
    · rw [traiter_enVol]
      exact ecritures_eraseIdx _ k
    · intro uid member
      rw [traiter_uids]
      exact member

section Retours

variable (bon : Inscription → Doc → Prop)

theorem tenues_aboutir
    (neuf : ∀ user name phone, bon ⟨user.uid, name, phone⟩ (emailUserSetup user name phone))
    (r : Registre) (ordre : Ordre r) (tenues : Tenues bon r) (k : ℕ)
    (google : ∀ user, r.etat.enVol[k]? = some (.googleSetup user) →
      ∀ i ∈ r.inscriptions, i.uid = user.uid → bon i (googleUserSetup user)) :
    Tenues bon (noter r (.aboutir k)) := by
  rcases noter_aboutir r k with ⟨_, same⟩ | ⟨requete, at_, result⟩
  · rw [same]
    exact tenues
  · have split := mem_ecritures_retirer r.etat.enVol k requete at_
    rw [result]
    intro i noted landed
    rw [traiter_enVol] at landed
    have before : ecriture requete ≠ some i → Tenue bon r.etat.store i := by
      intro other
      exact tenues i noted (fun pending => ((split i).mp pending).elim other landed)
    simp only [Tenue, doc?_traiter]
    cases requete with
    | googleSetup user =>
        by_cases own : i.uid = user.uid
        · simp only [if_pos own]
          exact ⟨_, rfl, google user at_ i noted own⟩
        · simp only [if_neg own]
          exact before (by simp [ecriture])
    | emailSetup user name phone =>
        by_cases own : i.uid = user.uid
        · have sent : (⟨user.uid, name, phone⟩ : Inscription) ∈ r.inscriptions :=
            ordre.notees _ ((split _).mpr (Or.inl rfl))
          have same := List.inj_on_of_nodup_map ordre.distinctes noted sent own
          subst same
          simp only [if_true]
          exact ⟨_, rfl, neuf user name phone⟩
        · simp only [if_neg own]
          apply before
          simp only [ecriture, ne_eq, Option.some.injEq]
          rintro rfl
          exact own rfl
    | updateDisplayName uid name => exact before (by simp [ecriture])
    | signOut inscrit => exact before (by simp [ecriture])

theorem tenues_echouer (r : Registre) (ordre : Ordre r) (tenues : Tenues bon r) (k : ℕ) :
    Tenues bon (noter r (.echouer k)) ↔ SansPerte bon r.etat (.echouer k) := by
  rw [noter_echouer]
  constructor
  · rintro after _ i ⟨⟩ lost
    obtain ⟨requete, at_, written⟩ := Option.bind_eq_some_iff.mp lost
    have unique := (ecritures_retirer r.etat.enVol k requete at_).nodup_iff.mpr ordre.uniques
    rw [written, Option.toList_some, List.singleton_append, List.nodup_cons] at unique
    have sent := (mem_ecritures_retirer r.etat.enVol k requete at_ i).mpr (Or.inl written)
    exact after i (ordre.notees i sent) unique.1
  · intro safe i noted landed
    by_cases pending : i ∈ ecritures r.etat.enVol
    · cases at_ : r.etat.enVol[k]? with
      | none =>
          rw [List.eraseIdx_of_length_le (by simpa using at_)] at landed
          exact absurd pending landed
      | some requete =>
          have split := (mem_ecritures_retirer r.etat.enVol k requete at_ i).mp pending
          rcases split with written | stays
          · exact safe k i rfl (by rw [at_, Option.bind_some, written])
          · exact absurd stays landed
    · exact tenues i noted pending

inductive Issue where
  | reussie (rang : ℕ)
  | echouee (rang : ℕ)

def Issue.action : Issue → Action
  | reussie rang => .aboutir rang
  | echouee rang => .echouer rang

def achever (s : Etat) (issue : Issue) : Etat := step s issue.action

def noterIssue (r : Registre) (issue : Issue) : Registre := noter r issue.action

structure EnCours (r : Registre) : Prop where
  ordre : Ordre r
  sansGoogle : ∀ user, .googleSetup user ∉ r.etat.enVol

theorem noterIssue_garde (r : Registre) (issue : Issue) :
    (noterIssue r issue).inscriptions = r.inscriptions ∧
      uids (noterIssue r issue).etat.comptes = uids r.etat.comptes ∧
      ∀ requete ∈ (noterIssue r issue).etat.enVol, requete ∈ r.etat.enVol := by
  cases issue with
  | echouee k =>
      rw [noterIssue, Issue.action, noter_echouer]
      exact ⟨rfl, rfl, fun _ member => List.mem_of_mem_eraseIdx member⟩
  | reussie k =>
      rw [noterIssue, Issue.action]
      rcases noter_aboutir r k with ⟨_, same⟩ | ⟨requete, _, landed⟩
      · rw [same]
        exact ⟨rfl, rfl, fun _ member => member⟩
      · rw [landed]
        refine ⟨rfl, traiter_uids _ requete, fun _ member => ?_⟩
        rw [traiter_enVol] at member
        exact List.mem_of_mem_eraseIdx member

theorem enCours_noterIssue (r : Registre) (issue : Issue) (enCours : EnCours r) :
    EnCours (noterIssue r issue) := by
  obtain ⟨_, _, pending⟩ := noterIssue_garde r issue
  refine ⟨?_, fun user member => enCours.sansGoogle user (pending _ member)⟩
  cases issue with
  | echouee k => exact ordre_echouer r enCours.ordre k
  | reussie k => exact ordre_aboutir r enCours.ordre k

theorem tenues_avant (r : Registre) (issue : Issue) (enCours : EnCours r)
    (after : Tenues bon (noterIssue r issue)) : Tenues bon r := by
  intro i noted landed
  cases issue with
  | echouee k =>
      rw [noterIssue, Issue.action, noter_echouer] at after
      exact after i noted (fun pending => landed ((ecritures_eraseIdx _ k).subset pending))
  | reussie k =>
      rw [noterIssue, Issue.action] at after
      rcases noter_aboutir r k with ⟨_, unchanged⟩ | ⟨requete, at_, result⟩
      · rw [unchanged] at after
        exact after i noted landed
      · rw [result] at after
        have split := mem_ecritures_retirer r.etat.enVol k requete at_
        have holds := after i noted (by
          rw [traiter_enVol]
          exact fun pending => landed ((split i).mpr (Or.inr pending)))
        simp only [Tenue, doc?_traiter] at holds
        cases requete with
        | googleSetup user => exact absurd (List.mem_of_getElem? at_) (enCours.sansGoogle user)
        | emailSetup user name phone =>
            have sent : (⟨user.uid, name, phone⟩ : Inscription) ∈ ecritures r.etat.enVol :=
              (split _).mpr (Or.inl rfl)
            have other : i.uid ≠ user.uid := by
              intro own
              have same := List.inj_on_of_nodup_map enCours.ordre.distinctes noted
                (enCours.ordre.notees _ sent) own
              exact landed (same ▸ sent)
            simp only [if_neg other] at holds
            exact holds
        | updateDisplayName uid name => exact holds
        | signOut inscrit => exact holds

theorem retours_iff
    (neuf : ∀ user name phone, bon ⟨user.uid, name, phone⟩ (emailUserSetup user name phone))
    (r : Registre) (enCours : EnCours r) (tenues : Tenues bon r) (issues : List Issue) :
    Tenues bon (Machine.run noterIssue r issues) ↔
      Machine.Along noterIssue (fun r issue => SansPerte bon r.etat issue.action) r issues := by
  have kept := fun s issue held => enCours_noterIssue s issue held
  have throughout : Machine.Always noterIssue (Tenues bon) r issues ↔
      Tenues bon (Machine.run noterIssue r issues) := by
    constructor
    · exact Machine.always_last noterIssue _ r issues
    · exact Machine.always_of_last noterIssue EnCours _ kept
        (fun s issue held => tenues_avant bon s issue held) r issues enCours
  rw [← throughout]
  apply Machine.always_iff_along noterIssue EnCours _ _ kept _ r issues enCours tenues
  intro s issue held now
  cases issue with
  | echouee k => exact tenues_echouer bon s held.ordre now k
  | reussie k =>
      refine iff_of_true (tenues_aboutir bon neuf s held.ordre now k ?_) ?_
      · intro user at_
        exact absurd (List.mem_of_getElem? at_) (held.sansGoogle user)
      · rintro _ _ ⟨⟩

end Retours

theorem profilSaisi_emailUserSetup (user : User) (name phone : String) :
    ProfilSaisi ⟨user.uid, name, phone⟩ (emailUserSetup user name phone) := by
  simp [ProfilSaisi, emailUserSetup, profil, Doc.ofFields, Doc.string?, Doc.number?,
    List.lookup_cons]

theorem noterIssue_run (r : Registre) (issues : List Issue) :
    (Machine.run noterIssue r issues).inscriptions = r.inscriptions ∧
      uids (Machine.run noterIssue r issues).etat.comptes = uids r.etat.comptes := by
  apply Machine.run_preserves noterIssue
    (fun r' => r'.inscriptions = r.inscriptions ∧ uids r'.etat.comptes = uids r.etat.comptes)
  · rintro s issue ⟨noted, accounts⟩
    obtain ⟨noted', accounts', _⟩ := noterIssue_garde s issue
    exact ⟨noted'.trans noted, accounts'.trans accounts⟩
  · exact ⟨rfl, rfl⟩

theorem envoyer_cases (s : Etat) (form : RegisterForm) (uid : String) (cree : Bool)
    (rest : s.enVol = []) :
    envoyer s form uid cree = s ∨
    (uids (envoyer s form uid cree).comptes = uids s.comptes ++ [uid] ∧
      ecritures (envoyer s form uid cree).enVol = [⟨uid, form.nom, form.phone⟩] ∧
      ∀ user, .googleSetup user ∉ (envoyer s form uid cree).enVol) := by
  rw [envoyer]
  split
  · rw [register]
    split
    · exact Or.inl rfl
    · simp only [rest, List.nil_append]
      exact Or.inr ⟨uids_append _ _, rfl, by simp⟩
  · exact Or.inl rfl

theorem envoyer_enCours (s : Etat) (form : RegisterForm) (uid : String) (cree : Bool)
    (rest : s.enVol = []) :
    ∃ noted, EnCours ⟨envoyer s form uid cree, noted⟩ ∧
      Tenues ProfilSaisi ⟨envoyer s form uid cree, noted⟩ ∧
      ((noted = [] ∧ uids (envoyer s form uid cree).comptes = uids s.comptes) ∨
        (noted = [⟨uid, form.nom, form.phone⟩] ∧
          uids (envoyer s form uid cree).comptes ≠ uids s.comptes)) := by
  rcases envoyer_cases s form uid cree rest with none_ | ⟨created, sent, google⟩
  · refine ⟨[], ⟨⟨?_, ?_, List.nodup_nil, by simp⟩, ?_⟩, by simp [Tenues],
      Or.inl ⟨rfl, by rw [none_]⟩⟩
    · simp [none_, rest, ecritures]
    · simp [none_, rest, ecritures]
    · simp [none_, rest]
  · refine ⟨[⟨uid, form.nom, form.phone⟩], ⟨⟨?_, ?_, List.nodup_singleton _, ?_⟩, google⟩, ?_,
      Or.inr ⟨rfl, by rw [created]; simp⟩⟩
    · rw [sent]
      exact List.nodup_singleton _
    · rw [sent]
      exact fun _ member => member
    · simp [created]
    · intro i noted landed
      rw [sent] at landed
      exact absurd noted landed

theorem inscription_iff (s : Etat) (form : RegisterForm) (uid : String) (cree : Bool)
    (issues : List Issue) (rest : s.enVol = [])
    (ended : (Machine.run achever (envoyer s form uid cree) issues).enVol = []) :
    (uids (Machine.run achever (envoyer s form uid cree) issues).comptes = uids s.comptes ∨
      Tenue ProfilSaisi (Machine.run achever (envoyer s form uid cree) issues).store
        ⟨uid, form.nom, form.phone⟩) ↔
      Machine.Along achever (fun s issue => SansPerte ProfilSaisi s issue.action)
        (envoyer s form uid cree) issues := by
  obtain ⟨noted, enCours, tenues, account⟩ := envoyer_enCours s form uid cree rest
  have project : (Machine.run noterIssue ⟨envoyer s form uid cree, noted⟩ issues).etat =
      Machine.run achever (envoyer s form uid cree) issues :=
    Machine.run_project noterIssue achever Registre.etat (fun _ _ => rfl) _ issues
  have along := Machine.along_project noterIssue achever Registre.etat (fun _ _ => rfl)
    (fun s issue => SansPerte ProfilSaisi s issue.action) ⟨envoyer s form uid cree, noted⟩ issues
  obtain ⟨same, accounts⟩ := noterIssue_run ⟨envoyer s form uid cree, noted⟩ issues
  rw [project] at accounts
  rw [← along, ← retours_iff ProfilSaisi profilSaisi_emailUserSetup _ enCours tenues, Tenues, same,
    project, ended, accounts]
  rcases account with ⟨rfl, unchanged⟩ | ⟨rfl, created⟩
  · exact iff_of_true (Or.inl unchanged) (by simp)
  · rw [or_iff_right created]
    simp [ecritures]

structure Calme (s s' : Etat) : Prop where
  envois : ecritures s'.enVol = ecritures s.enVol
  comptes : ∀ uid ∈ uids s.comptes, uid ∈ uids s'.comptes
  documents : ∀ uid, (s.store.doc? utilisateurs uid).isSome →
    (s'.store.doc? utilisateurs uid).isSome

theorem calme_of_store (s s' : Etat) (envois : ecritures s'.enVol = ecritures s.enVol)
    (comptes : ∀ uid ∈ uids s.comptes, uid ∈ uids s'.comptes) (store : s'.store = s.store) :
    Calme s s' :=
  ⟨envois, comptes, fun _ present => by rw [store]; exact present⟩

theorem calme_google (s : Etat) (choisi : Option GoogleSignInAccount) :
    Calme s (signInWithGoogle s choisi) := by
  cases choisi with
  | none => exact calme_of_store s s rfl (fun _ member => member) rfl
  | some choisi =>
      simp only [signInWithGoogle]
      split
      · exact calme_of_store s s rfl (fun _ member => member) rfl
      · rename_i user comptes' signed
        exact calme_of_store s _ ((ecritures_append _ _).trans (List.append_nil _))
          (signInWithCredential_gardes s.comptes choisi user comptes' signed) rfl

theorem calme_email (s : Etat) (email : String) (juste : Bool) :
    Calme s (signInWithEmailAndPassword s email juste) := by
  unfold signInWithEmailAndPassword
  split
  · exact calme_of_store s _ ((ecritures_append _ _).trans (List.append_nil _))
      (fun _ member => member) rfl
  · exact calme_of_store s _ ((ecritures_append _ _).trans (List.append_nil _))
      (fun _ member => member) rfl

theorem calme_avancer (s : Etat) (k : ℕ) : Calme s (avancer s k) := by
  obtain ⟨accounts, pending⟩ := avancer_comptes s k
  refine ⟨by rw [pending], fun uid member => by rw [accounts]; exact member, fun uid present => ?_⟩
  unfold avancer
  split
  · exact present
  · rename_i run at_
    rw [doc?_continuer]
    split
    · simp only [mouvement, Function.update_apply]
      split
      · rename_i own
        rw [Option.isSome_map, ← own]
        exact present
      · exact present
    · exact present

def Autre : Action → Prop
  | .register _ _ _ _ => False
  | .aboutir _ => False
  | .echouer _ => False
  | _ => True

theorem calme_step (s : Etat) (act : Action) (other : Autre act) : Calme s (step s act) := by
  cases act with
  | signInWithGoogle choisi => exact calme_google s choisi
  | signInWithEmailAndPassword email juste => exact calme_email s email juste
  | avancer k => exact calme_avancer s k
  | initializeFirebase => exact calme_of_store s _ rfl (fun _ member => member) rfl
  | googleSignOut reussi => exact calme_of_store s _ rfl (fun _ member => member) rfl
  | payer restoId =>
      simp only [step]
      split
      · exact calme_of_store s _ rfl (fun _ member => member) rfl
      · exact calme_of_store s _ rfl (fun _ member => member) rfl
  | payerAilleurs persoId restoId => exact calme_of_store s _ rfl (fun _ member => member) rfl
  | crediter uid montant =>
      refine ⟨rfl, fun _ member => member, fun other present => ?_⟩
      simp only [step, Database.doc?_change, true_and]
      split
      · rw [Option.isSome_map]
        exact present
      · exact present
  | register email name phone uid => exact other.elim
  | aboutir k => exact other.elim
  | echouer k => exact other.elim

theorem noter_autre (r : Registre) (act : Action) (other : Autre act) :
    noter r act = ⟨step r.etat act, r.inscriptions⟩ := by
  cases act with
  | register email name phone uid => exact other.elim
  | _ => exact congrArg (Registre.mk _) (List.append_nil _)

theorem noter_register (r : Registre) (email name phone uid : String) :
    noter r (.register email name phone uid) = r ∨
    (uid ∉ uids r.etat.comptes ∧
      (noter r (.register email name phone uid)).inscriptions =
        r.inscriptions ++ [⟨uid, name, phone⟩] ∧
      ecritures (noter r (.register email name phone uid)).etat.enVol =
        ecritures r.etat.enVol ++ [⟨uid, name, phone⟩] ∧
      uids (noter r (.register email name phone uid)).etat.comptes =
        uids r.etat.comptes ++ [uid] ∧
      (noter r (.register email name phone uid)).etat.store = r.etat.store) := by
  simp only [noter, step, register, inscrite]
  split
  · exact Or.inl (congrArg (Registre.mk _) (List.append_nil _))
  · rename_i accepted
    rw [not_or] at accepted
    exact Or.inr ⟨accepted.2, rfl, ecritures_append _ _, uids_append _ _, rfl⟩

theorem ordre_register (r : Registre) (ordre : Ordre r) (email name phone uid : String) :
    Ordre (noter r (.register email name phone uid)) := by
  rcases noter_register r email name phone uid with same | ⟨fresh, noted, sent, accounts, _⟩
  · rw [same]
    exact ordre
  · have apart : uid ∉ r.inscriptions.map Inscription.uid := by
      intro member
      obtain ⟨i, old, same⟩ := List.mem_map.mp member
      exact fresh (same ▸ ordre.comptes i old)
    refine ⟨?_, ?_, ?_, ?_⟩
    · rw [sent, ← List.concat_eq_append]
      exact List.Nodup.concat (fun pending => apart (List.mem_map_of_mem (ordre.notees _ pending)))
        ordre.uniques
    · rw [sent, noted]
      intro i pending
      rcases List.mem_append.mp pending with old | new
      · exact List.mem_append_left _ (ordre.notees i old)
      · exact List.mem_append_right _ new
    · rw [noted, List.map_append, List.map_singleton, ← List.concat_eq_append]
      exact List.Nodup.concat apart ordre.distinctes
    · rw [noted, accounts]
      intro i member
      rcases List.mem_append.mp member with old | new
      · exact List.mem_append_left _ (ordre.comptes i old)
      · rw [List.mem_singleton.mp new]
        exact List.mem_append_right _ (List.mem_singleton_self uid)

theorem ordre_noter (r : Registre) (act : Action) (ordre : Ordre r) : Ordre (noter r act) := by
  have quiet : Autre act → Ordre (noter r act) := by
    intro other
    have calme := calme_step r.etat act other
    rw [noter_autre r act other]
    refine ordre_of_sublist ordre rfl ?_ calme.comptes
    rw [calme.envois]
  cases act with
  | aboutir k => exact ordre_aboutir r ordre k
  | echouer k => exact ordre_echouer r ordre k
  | register email name phone uid => exact ordre_register r ordre email name phone uid
  | _ => exact quiet trivial

theorem tenue_step (s : Etat) (act : Action) (i : Inscription)
    (held : Tenue UnDocument s.store i) : Tenue UnDocument (step s act).store i := by
  obtain ⟨d, found, _⟩ := held
  have calme : Autre act → Tenue UnDocument (step s act).store i := by
    intro other
    have present := (calme_step s act other).documents i.uid (by rw [found]; rfl)
    obtain ⟨d', found'⟩ := Option.isSome_iff_exists.mp present
    exact ⟨d', found', trivial⟩
  cases act with
  | echouer k => exact ⟨d, found, trivial⟩
  | aboutir k =>
      simp only [step]
      split
      · exact ⟨d, found, trivial⟩
      · rename_i requete waits
        rw [Tenue, doc?_traiter]
        split
        · split
          · exact ⟨_, rfl, trivial⟩
          · exact ⟨d, found, trivial⟩
        · split
          · exact ⟨_, rfl, trivial⟩
          · exact ⟨d, found, trivial⟩
        · exact ⟨d, found, trivial⟩
  | register email name phone uid =>
      simp only [step, register]
      split
      · exact ⟨d, found, trivial⟩
      · exact ⟨d, found, trivial⟩
  | _ => exact calme trivial

theorem tenues_noter (r : Registre) (act : Action) (ordre : Ordre r)
    (tenues : Tenues UnDocument r) :
    Tenues UnDocument (noter r act) ↔ SansPerte UnDocument r.etat act := by
  have quiet : (∀ k, act ≠ .echouer k) → Tenues UnDocument (noter r act) →
      (Tenues UnDocument (noter r act) ↔ SansPerte UnDocument r.etat act) := by
    intro other kept
    exact iff_of_true kept (fun k _ same => absurd same (other k))
  have calme : Autre act → Tenues UnDocument (noter r act) := by
    intro other
    have calme := calme_step r.etat act other
    rw [noter_autre r act other]
    intro i noted landed
    rw [calme.envois] at landed
    exact tenue_step r.etat act i (tenues i noted landed)
  cases act with
  | echouer k => exact tenues_echouer UnDocument r ordre tenues k
  | aboutir k =>
      apply quiet (by simp)
      exact tenues_aboutir UnDocument (fun _ _ _ => trivial) r ordre tenues k
        (fun _ _ _ _ _ => trivial)
  | register email name phone uid =>
      apply quiet (by simp)
      rcases noter_register r email name phone uid with same | ⟨_, noted, sent, _, store⟩
      · rw [same]
        exact tenues
      · intro i member landed
        rw [noted] at member
        rw [sent, List.mem_append, not_or] at landed
        rw [store]
        rcases List.mem_append.mp member with old | new
        · exact tenues i old landed.1
        · exact absurd new landed.2
  | _ => exact quiet (by simp) (calme trivial)

/-- The registered users whose registration an action ends, as the `signOut` it awaits comes back,
and those whose account signs in with its e-mail. -/
def arrivants (r : Registre) : Action → List Inscription
  | .aboutir k | .echouer k =>
      match r.etat.enVol[k]? with
      | some (.signOut (some uid)) => r.inscriptions.filter (fun i => i.uid = uid)
      | _ => []
  | .signInWithEmailAndPassword email juste =>
      match r.etat.comptes.find? (fun user => user.email = email), juste with
      | some user, true => r.inscriptions.filter (fun i => i.uid = user.uid)
      | _, _ => []
  | _ => []

structure Guichet where
  registre : Registre
  entrants : List Inscription

def accueillir (g : Guichet) (act : Action) : Guichet :=
  ⟨noter g.registre act, g.entrants ++ arrivants g.registre act⟩

/-- No registered user is without a document, but for those whose profile write is in flight, whose
registration goes on and whose account has not signed in. -/
structure Servis (g : Guichet) : Prop where
  rentrees : Tenues UnDocument g.registre
  entrants : ∀ i ∈ g.entrants, Tenue UnDocument g.registre.etat.store i

/-- When a registration ends or its account signs in, its profile write is no longer in flight or
the document is there. -/
def SansAttente (r : Registre) (act : Action) : Prop :=
  ∀ i ∈ arrivants r act, i ∈ ecritures r.etat.enVol → Tenue UnDocument r.etat.store i

theorem arrivants_inscrits (r : Registre) (act : Action) (i : Inscription)
    (comes : i ∈ arrivants r act) : i ∈ r.inscriptions := by
  unfold arrivants at comes
  split at comes
  · split at comes
    · exact List.mem_of_mem_filter comes
    · cases comes
  · split at comes
    · exact List.mem_of_mem_filter comes
    · cases comes
  · split at comes
    · exact List.mem_of_mem_filter comes
    · cases comes
  · cases comes

theorem store_arrivants (r : Registre) (act : Action) (i : Inscription)
    (comes : i ∈ arrivants r act) : (step r.etat act).store = r.etat.store := by
  cases act with
  | aboutir k =>
      simp only [arrivants] at comes
      split at comes
      · rename_i uid waits
        simp only [step, waits, traiter]
      · cases comes
  | echouer k => rfl
  | signInWithEmailAndPassword email juste =>
      simp only [step, signInWithEmailAndPassword]
      split
      · rfl
      · rfl
  | _ => cases comes

theorem servis_accueillir (g : Guichet) (act : Action) (ordre : Ordre g.registre)
    (servis : Servis g) : Servis (accueillir g act) ↔
      SansPerte UnDocument g.registre.etat act ∧ SansAttente g.registre act := by
  have writes := tenues_noter g.registre act ordre servis.rentrees
  constructor
  · intro after
    refine ⟨writes.mp after.rentrees, fun i comes _ => ?_⟩
    have there := after.entrants i (List.mem_append_right _ comes)
    rwa [accueillir, noter, store_arrivants g.registre act i comes] at there
  · rintro ⟨safe, waits⟩
    refine ⟨writes.mpr safe, fun i entered => tenue_step g.registre.etat act i ?_⟩
    rcases List.mem_append.mp entered with old | comes
    · exact servis.entrants i old
    · by_cases pending : i ∈ ecritures g.registre.etat.enVol
      · exact waits i comes pending
      · exact servis.rentrees i (arrivants_inscrits g.registre act i comes) pending

/-- Registration leaves no account without a wallet, if and only if no profile write fails that
finds no document, and none is still in flight when the account can sign in. First for one
registration whose calls come back in any order; then along any history of the application, for
every user registered in it. -/
theorem no_account_without_wallet_iff (s : Etat) (form : RegisterForm) (uid : String)
    (cree : Bool) (issues : List Issue) (rest : s.enVol = [])
    (ended : (Machine.run achever (envoyer s form uid cree) issues).enVol = [])
    (db : Database) (comptes : List User) (currentUser : Option User) (actions : List Action) :
    ((uids (Machine.run achever (envoyer s form uid cree) issues).comptes = uids s.comptes ∨
      Tenue ProfilSaisi (Machine.run achever (envoyer s form uid cree) issues).store
        ⟨uid, form.nom, form.phone⟩) ↔
      Machine.Along achever (fun s issue => SansPerte ProfilSaisi s issue.action)
        (envoyer s form uid cree) issues) ∧
    ((∀ front back, actions = front ++ back →
      Servis (Machine.run accueillir ⟨⟨depart db comptes currentUser, []⟩, []⟩ front)) ↔
      Machine.Along accueillir (fun g act => SansPerte UnDocument g.registre.etat act ∧
        SansAttente g.registre act) ⟨⟨depart db comptes currentUser, []⟩, []⟩ actions) := by
  refine ⟨inscription_iff s form uid cree issues rest ended, ?_⟩
  rw [← Machine.always_iff_prefixes]
  apply Machine.always_iff_along accueillir (fun g => Ordre g.registre)
  · exact fun g act ordre => ordre_noter g.registre act ordre
  · exact servis_accueillir
  · exact ⟨List.nodup_nil, by simp [depart, ecritures], List.nodup_nil, by simp⟩
  · exact ⟨by simp [Tenues], fun i none_ => absurd none_ List.not_mem_nil⟩

section Compte

def formAda : RegisterForm :=
  ⟨"Ada", "ada@mail.ci", "0102030405", "motdepasse", "motdepasse"⟩

def accueil : Etat := depart (fun _ => OrderedMap.empty) [] none

theorem ada_has_wallet :
    Tenue ProfilSaisi (Machine.run achever (envoyer accueil formAda "u" true)
      [.reussie 1, .reussie 0, .reussie 0]).store ⟨"u", "Ada", "0102030405"⟩ := by
  have settled := (no_account_without_wallet_iff accueil formAda "u" true
    [.reussie 1, .reussie 0, .reussie 0] rfl (by decide +kernel)
    accueil.store [] none []).1
  have none_fails : Machine.Along achever (fun s issue => SansPerte ProfilSaisi s issue.action)
      (envoyer accueil formAda "u" true) [.reussie 1, .reussie 0, .reussie 0] := by
    refine ⟨?_, ?_, ?_, trivial⟩ <;> rintro _ _ ⟨⟩
  exact (settled.mpr none_fails).resolve_left (by decide +kernel)

def sansProfil : Etat := Machine.run achever (envoyer accueil formAda "u" true)
  [.echouee 1, .reussie 0, .reussie 0]

/-- The account is there and the document is not: she can sign in, and her payments fail at the
first read. -/
theorem failed_profile_write_leaves_no_wallet :
    formAda.validate ∧ sansProfil.enVol = [] ∧
      ¬ (uids sansProfil.comptes = uids accueil.comptes ∨
        Tenue ProfilSaisi sansProfil.store ⟨"u", "Ada", "0102030405"⟩) ∧
      (step sansProfil (.signInWithEmailAndPassword "ada@mail.ci" true)).mainScreen.map User.uid =
        some "u" ∧
      lireBalance sansProfil.store "u" = .erreur .debut := by
  have absent : sansProfil.store.doc? utilisateurs "u" = none := by
    rw [← Option.isNone_iff_eq_none]
    decide +kernel
  refine ⟨by decide +kernel, by decide +kernel, ?_, by decide +kernel, ?_⟩
  · rintro (unchanged | ⟨d, found, _⟩)
    · exact absurd unchanged (by decide +kernel)
    · rw [absent] at found
      cases found
  · rw [lireBalance, absent]

end Compte

end EWallet.Authentification
