import EWallet.Authentification.Inscription

namespace EWallet.Authentification

open Firestore Facture

structure Compte where
  balance : Value
  nom : Value

def compte (db : Database) (uid : String) : Option Compte :=
  (db.doc? utilisateurs uid).map (fun d => ⟨d.field "balance", d.field "name"⟩)

/-- An entry of the ledger of an account: an amount put on it, or a setup of the wallet. -/
inductive Ecriture where
  | mouvement (montant : Number)
  | ouverture (nom : Value)

def passer (compte : Option Compte) : Ecriture → Option Compte
  | .mouvement montant => compte.map (fun c =>
      { c with balance := (FieldValue.increment montant).apply (some c.balance) })
  | .ouverture nom => some ⟨.number (.int 0), nom⟩

def ouvertures (uid : String) : Requete → List Ecriture
  | .googleSetup user => if user.uid = uid then [.ouverture (.nullable user.displayName)] else []
  | .emailSetup user name _ => if user.uid = uid then [.ouverture (.string name)] else []
  | _ => []

/-- What an action enters in the ledger of a user: a credit to a wallet that exists, the debit of a
payment, the setup of the wallet when its write lands. -/
def entreesDe (uid : String) (s : Etat) : Action → List Ecriture
  | .crediter autre montant =>
      if autre = uid ∧ (s.store.doc? utilisateurs uid).isSome then [.mouvement montant] else []
  | .avancer k =>
      match s.runs[k]? with
      | none => []
      | some run =>
          match debitee run.etape (continuer run.persoId run.restoId s.store run.etape).2 with
          | some p => if run.persoId = uid then [.mouvement (-p)] else []
          | none => []
  | .aboutir k => (s.enVol[k]?.map (ouvertures uid)).getD []
  | _ => []

def grandLivre (s : Etat) (actions : List Action) (uid : String) : List Ecriture :=
  Machine.output step (entreesDe uid) s actions

inductive Effet (db db' : Database) (uid : String) : List Ecriture → Prop
  | intact (same : db'.doc? utilisateurs uid = db.doc? utilisateurs uid) : Effet db db' uid []
  | mouvement (montant : Number) (d : Doc) (found : db.doc? utilisateurs uid = some d)
      (moved : db'.doc? utilisateurs uid = some (d.update [("balance", .increment montant)])) :
      Effet db db' uid [.mouvement montant]
  | profil (user : User) (name phone : Value)
      (written : db'.doc? utilisateurs uid = some (profil user name phone)) :
      Effet db db' uid [.ouverture name]

theorem effet_mouvement (db db' : Database) (autre uid : String) (montant : Number)
    (moved : db'.doc? utilisateurs uid =
      mouvement (fun u => db.doc? utilisateurs u) autre montant uid) :
    Effet db db' uid (if autre = uid ∧ (db.doc? utilisateurs uid).isSome then
      [.mouvement montant] else []) := by
  simp only [mouvement, Function.update_apply] at moved
  by_cases own : uid = autre
  · subst own
    rw [if_pos rfl] at moved
    cases found : db.doc? utilisateurs uid with
    | none =>
        rw [found, Option.map_none] at moved
        simp only [Option.isSome_none, Bool.false_eq_true, and_false, if_false]
        exact .intact (moved.trans found.symm)
    | some d =>
        rw [found, Option.map_some] at moved
        simp only [Option.isSome_some, and_self, if_true]
        exact .mouvement montant d found moved
  · rw [if_neg own] at moved
    simp only [Ne.symm own, false_and, if_false]
    exact .intact moved

theorem effet_traiter (s : Etat) (requete : Requete) (uid : String) :
    Effet s.store (traiter s requete).store uid (ouvertures uid requete) := by
  have landed := doc?_traiter s requete uid
  cases requete with
  | googleSetup user =>
      by_cases own : uid = user.uid
      · subst own
        simp only [if_true] at landed
        simp only [ouvertures, if_true]
        exact .profil user _ _ landed
      · simp only [if_neg own] at landed
        simp only [ouvertures, Ne.symm own, if_false]
        exact .intact landed
  | emailSetup user name phone =>
      by_cases own : uid = user.uid
      · subst own
        simp only [if_true] at landed
        simp only [ouvertures, if_true]
        exact .profil user _ _ landed
      · simp only [if_neg own] at landed
        simp only [ouvertures, Ne.symm own, if_false]
        exact .intact landed
  | updateDisplayName other name => exact .intact rfl
  | signOut inscrit => exact .intact rfl

theorem debitee_present (run : Run) (db : Database) (p : Number)
    (debited : debitee run.etape (continuer run.persoId run.restoId db run.etape).2 = some p) :
    (db.doc? utilisateurs run.persoId).isSome := by
  have pas := pas_continuer run.persoId run.restoId db run.etape
  generalize (continuer run.persoId run.restoId db run.etape).1 = db' at pas
  generalize (continuer run.persoId run.restoId db run.etape).2 = e' at pas debited
  generalize run.etape = e at pas debited
  cases pas with
  | debit b p id present => exact present
  | lecture data found => cases debited
  | selection b p id data first price enough => cases debited
  | refus b p id data first price short => cases debited
  | reglement b p id present => cases debited
  | exception _ going before => cases e <;> cases debited
  | echecDebit b p id absent => cases debited
  | echecReglement b p id absent => cases debited
  | repos _ done => cases e' <;> cases debited

theorem effet_avancer (s : Etat) (k : ℕ) (uid : String) :
    Effet s.store (avancer s k).store uid (entreesDe uid s (.avancer k)) := by
  simp only [avancer, entreesDe]
  cases s.runs[k]? with
  | none => exact .intact rfl
  | some run =>
      have moved := doc?_continuer run s.store uid
      dsimp only
      cases debited : debitee run.etape
          (continuer run.persoId run.restoId s.store run.etape).2 with
      | none =>
          rw [debited] at moved
          exact .intact moved
      | some p =>
          rw [debited] at moved
          have present := debitee_present run s.store p debited
          have effet := effet_mouvement _ _ run.persoId uid (-p) moved
          by_cases own : run.persoId = uid
          · subst own
            simpa only [present, and_self, if_true] using effet
          · simpa only [own, false_and, if_false] using effet

theorem effet_step (s : Etat) (uid : String) (act : Action) :
    Effet s.store (step s act).store uid (entreesDe uid s act) := by
  have quiet : ∀ s' : Etat, s'.store = s.store → Effet s.store s'.store uid [] := by
    intro s' same
    rw [same]
    exact .intact rfl
  cases act with
  | avancer k => exact effet_avancer s k uid
  | crediter autre montant =>
      apply effet_mouvement
      simp only [step, Database.doc?_change, true_and, mouvement, Function.update_apply]
      split
      · rename_i own
        rw [own]
      · rfl
  | aboutir k =>
      simp only [step, entreesDe]
      cases s.enVol[k]? with
      | none => exact .intact rfl
      | some requete => exact effet_traiter { s with enVol := s.enVol.eraseIdx k } requete uid
  | initializeFirebase => exact quiet _ rfl
  | signInWithGoogle choisi => exact quiet _ (store_google s choisi)
  | signInWithEmailAndPassword email juste => exact quiet _ (store_email s email juste)
  | register email name phone uid' => exact quiet _ (store_register s email name phone uid')
  | googleSignOut reussi => exact quiet _ rfl
  | echouer k => exact quiet _ rfl
  | payer restoId =>
      apply quiet
      simp only [step]
      split
      · rfl
      · rfl
  | payerAilleurs persoId restoId => exact quiet _ rfl

/-- The step rule: an account changes by what the step enters in its ledger. -/
theorem compte_effet (db db' : Database) (uid : String) (entrees : List Ecriture)
    (effet : Effet db db' uid entrees) :
    compte db' uid = entrees.foldl passer (compte db uid) := by
  cases effet with
  | intact same => rw [List.foldl_nil, compte, same, compte]
  | mouvement montant d found moved =>
      have name := Doc.update_other d "balance" (.increment montant)
        (by decide : "name" ≠ "balance")
      simp only [compte, moved, found, Option.map_some, List.foldl_cons, List.foldl_nil, Doc.field,
        Doc.update_single d "balance" "balance", if_true, name, Option.getD_some, passer]
      cases d "balance" with
      | none => rfl
      | some v => rfl
  | profil user name phone written =>
      rw [compte, written]
      rfl

theorem foldl_passer_int (m : Int) (nom : Value) (montants : List Int)
    (room : |m| + (montants.map abs).sum < 2 ^ 63) :
    (montants.map (fun n => Ecriture.mouvement (.int n))).foldl passer
        (some ⟨.number (.int m), nom⟩) = some ⟨.number (.int (m + montants.sum)), nom⟩ := by
  induction montants generalizing m with
  | nil => simp
  | cons n rest ih =>
      have others : 0 ≤ (rest.map abs).sum := List.sum_nonneg (by simp)
      rw [List.map_cons, List.sum_cons] at room
      have grown := abs_add_le m n
      have here : passer (some ⟨.number (.int m), nom⟩) (.mouvement (.int n)) =
          some ⟨.number (.int (m + n)), nom⟩ := by
        simp only [passer, Option.map_some, FieldValue.apply, Number.increase_int m n (by omega)]
      rw [List.map_cons, List.foldl_cons, here, ih (m + n) (by omega), List.sum_cons, add_assoc]

theorem compte_run (s : Etat) (actions : List Action) (uid : String) :
    compte (Machine.run step s actions).store uid =
      (grandLivre s actions uid).foldl passer (compte s.store uid) :=
  Machine.run_folds step (fun _ => True) (fun s => compte s.store uid) (entreesDe uid) passer
    (fun _ _ _ => trivial) (fun s act _ => compte_effet _ _ uid _ (effet_step s uid act)) s actions
    trivial

/-- Along every history of sign-ins, registrations, payments, credits and calls that come back in
any order, each account is what its ledger makes of it: the amounts put on it or taken from it, one
after the other as the store adds them, from nothing again at each setup that lands. Integers that
stay within 64 bits add up exactly. -/
theorem wallet_accounting (s : Etat) (actions : List Action) (uid : String) :
    compte (Machine.run step s actions).store uid =
        (grandLivre s actions uid).foldl passer (compte s.store uid) ∧
      ∀ avant nom (montants : List Int), grandLivre s actions uid =
          avant ++ .ouverture nom :: montants.map (fun n => .mouvement (.int n)) →
        (montants.map abs).sum < 2 ^ 63 →
        compte (Machine.run step s actions).store uid =
          some ⟨.number (.int montants.sum), nom⟩ := by
  refine ⟨compte_run s actions uid, fun avant nom montants listed room => ?_⟩
  rw [compte_run, listed, List.foldl_append, List.foldl_cons]
  rw [passer, foldl_passer_int 0 nom montants (by simpa using room), zero_add]

end EWallet.Authentification
