import EWallet.Commandes.Confirmation
import EWallet.Library.Delivery
import Mathlib.Algebra.Order.Group.Multiset
import Mathlib.Tactic.Abel

namespace EWallet.Commandes

open Firestore

section Lecture

variable (fromTimestamp : ℤ → ℤ) (now : ℤ)

def montre (entry : String × Doc) : Option MenuInfoCommande :=
  (testClient fromTimestamp now entry).map CommandeEnCours.plat

/-- The list 'Commande en cours' of a user at a restaurant. -/
def enCours (db : Database) (persoId restoId : String) : Multiset (Option MenuInfoCommande) :=
  ((mesCommandes db persoId restoId).map (montre fromTimestamp now) : List _)

def Ajout.pour (persoId restoId : String) (ajout : Ajout) : Prop :=
  ajout.restoId = restoId ∧ ajout.data.string? "id du client" = some persoId

instance (persoId restoId : String) : DecidablePred (Ajout.pour persoId restoId) := fun ajout =>
  inferInstanceAs (Decidable (ajout.restoId = restoId ∧ _))

def enAttente (calls : List Ajout) (persoId restoId : String) :
    Multiset (Option MenuInfoCommande) :=
  ((calls.filter (Ajout.pour persoId restoId)).map
    (fun ajout => montre fromTimestamp now ("", ajout.data)) : List _)

theorem montre_id (id id' : String) (data : Doc) :
    montre fromTimestamp now (id, data) = montre fromTimestamp now (id', data) := by
  simp only [montre, testClient, Option.map_bind, Option.bind_eq_bind, Option.map_some,
    Option.pure_def, Function.comp_def]

theorem montre_document (id restoId : String) (maintenant : ℤ) (user : Utilisateur)
    (commande : CommandeNewVersion) :
    montre fromTimestamp now (id, document user restoId maintenant commande) =
      some commande.info := by
  rw [montre, testClient_document]
  rfl

theorem enAttente_append (front back : List Ajout) (persoId restoId : String) :
    enAttente fromTimestamp now (front ++ back) persoId restoId =
      enAttente fromTimestamp now front persoId restoId +
        enAttente fromTimestamp now back persoId restoId := by
  simp [enAttente]

theorem enAttente_cons (ajout : Ajout) (rest : List Ajout) (persoId restoId : String) :
    enAttente fromTimestamp now (ajout :: rest) persoId restoId =
      (if ajout.pour persoId restoId then {montre fromTimestamp now ("", ajout.data)} else 0) +
        enAttente fromTimestamp now rest persoId restoId := by
  by_cases his : ajout.pour persoId restoId
  · simp [enAttente, his]
  · simp [enAttente, his]

theorem enAttente_perm (calls calls' : List Ajout) (same : calls.Perm calls')
    (persoId restoId : String) :
    enAttente fromTimestamp now calls persoId restoId =
      enAttente fromTimestamp now calls' persoId restoId :=
  Multiset.coe_eq_coe.mpr ((same.filter _).map _)

theorem enCours_set (db : Database) (ajout : Ajout) (id persoId restoId : String)
    (fresh : db.doc? (commandes ajout.restoId) id = none) :
    enCours fromTimestamp now (db.set (commandes ajout.restoId) id ajout.data) persoId restoId =
      (if ajout.pour persoId restoId then {montre fromTimestamp now ("", ajout.data)} else 0) +
        enCours fromTimestamp now db persoId restoId := by
  by_cases here : ajout.restoId = restoId
  · have joined := (Database.query_set_fresh db (commandes ajout.restoId) id ajout.data
      [("id du client", persoId)] fresh).map (montre fromTimestamp now)
    rw [here] at joined
    rw [enCours, mesCommandes, here, Multiset.coe_eq_coe.mpr joined]
    by_cases his : ajout.data.string? "id du client" = some persoId
    · simp [Ajout.pour, here, his, Database.isEqualTo, enCours, mesCommandes,
        montre_id fromTimestamp now id ""]
    · simp [Ajout.pour, here, his, Database.isEqualTo, enCours, mesCommandes]
  · rw [enCours, mesCommandes, Database.query_set_other _ _ _ _ _ (by simpa using Ne.symm here)]
    simp [Ajout.pour, here, enCours, mesCommandes]

theorem enAttente_confirmer (user : Utilisateur) (resto : String) (horloge : ℕ → ℤ)
    (lignes : List CommandeNewVersion) (persoId restoId : String) :
    enAttente fromTimestamp now (confirmer user resto horloge lignes) persoId restoId =
      if resto = restoId ∧ user.persoId = persoId then
        ((lignes.map (fun ligne => some ligne.info) : List _) : Multiset _)
      else 0 := by
  induction lignes generalizing horloge with
  | nil => simp [confirmer, enAttente]
  | cons ligne rest ih =>
      rw [confirmer_cons, enAttente_cons, ih]
      by_cases his : resto = restoId ∧ user.persoId = persoId
      · simp [Ajout.pour, document_client, his, montre_document]
      · simp [Ajout.pour, document_client, his]

end Lecture

/-- A line that was in the cart at a tap on 'Oui': whose, at which restaurant, and the line. -/
structure Confirmee where
  persoId : String
  restoId : String
  ligne : CommandeNewVersion

def confirmees (user : Utilisateur) (d : Appareil) : Action → List Confirmee
  | .oui page _ =>
      match d.dialogue page with
      | none => []
      | some p => d.lignes.map (fun ligne => ⟨user.persoId, p.restoId, ligne⟩)
  | _ => []

def attendues (lignes : List Confirmee) (persoId restoId : String) :
    Multiset (Option MenuInfoCommande) :=
  ((lignes.filter (fun c => c.restoId = restoId ∧ c.persoId = persoId)).map
    (fun c => some c.ligne.info) : List _)

theorem attendues_append (front back : List Confirmee) (persoId restoId : String) :
    attendues (front ++ back) persoId restoId =
      attendues front persoId restoId + attendues back persoId restoId := by
  simp [attendues]

theorem attendues_map (user : Utilisateur) (resto : String) (lignes : List CommandeNewVersion)
    (persoId restoId : String) :
    attendues (lignes.map (fun ligne => ⟨user.persoId, resto, ligne⟩)) persoId restoId =
      if resto = restoId ∧ user.persoId = persoId then
        ((lignes.map (fun ligne => some ligne.info) : List _) : Multiset _)
      else 0 := by
  by_cases his : resto = restoId ∧ user.persoId = persoId
  · simp [attendues, List.filter_map, Function.comp_def, his]
  · simp [attendues, List.filter_map, Function.comp_def, his]

theorem enAttente_ajouts (fromTimestamp : ℤ → ℤ) (now : ℤ) (user : Utilisateur) (d : Appareil)
    (act : Action) (persoId restoId : String) :
    enAttente fromTimestamp now (ajouts user d act) persoId restoId =
      attendues (confirmees user d act) persoId restoId := by
  cases act with
  | oui page horloge =>
      cases shown : d.dialogue page with
      | none => simp only [ajouts, confirmees, shown, enAttente, attendues, List.filter_nil,
          List.map_nil]
      | some p =>
          simp only [ajouts, confirmees, shown]
          rw [enAttente_confirmer, attendues_map]
  | ouvrirMenu restoId rubrique => rfl
  | menuRecu page plats => rfl
  | fermerMenu page => rfl
  | menuPlus page row => rfl
  | menuMoins page row => rfl
  | ouvrirCommande restoId => rfl
  | frame page => rfl
  | fermerCommande page => rfl
  | panierPlus page k => rfl
  | panierMoins page k => rfl
  | valider page => rfl

/-- The clients' devices, the server with the calls of `add` on their way to it, and the lines
confirmed so far. -/
structure Systeme (ι : Type*) where
  serveur : Server Ajout
  appareil : ι → Appareil
  confirmees : List Confirmee

/-- A client acts on the device, or one of the calls reaches the server and gets an id. -/
inductive Evenement (ι : Type*) where
  | client (i : ι) (act : Action)
  | atterrir (k : ℕ) (id : String)

variable {ι : Type*} [DecidableEq ι] (user : ι → Utilisateur)

def arriver (s : Systeme ι) : Evenement ι → Systeme ι
  | .client i act =>
      { serveur := ⟨s.serveur.store, s.serveur.calls.start (ajouts (user i) (s.appareil i) act)⟩
        appareil := Function.update s.appareil i (step (s.appareil i) act)
        confirmees := s.confirmees ++ Commandes.confirmees (user i) (s.appareil i) act }
  | .atterrir k id => { s with serveur := s.serveur.add Ajout.chemin Ajout.data k id }

def ouverture (db : Database) (appareil : ι → Appareil) : Systeme ι :=
  ⟨⟨db, .none⟩, appareil, []⟩

variable {user}

def Livre (fromTimestamp : ℤ → ℤ) (now : ℤ) (db : Database) (s : Systeme ι) : Prop :=
  ∀ persoId restoId, enCours fromTimestamp now s.serveur.store persoId restoId +
      enAttente fromTimestamp now s.serveur.calls.pending persoId restoId =
    enCours fromTimestamp now db persoId restoId + attendues s.confirmees persoId restoId

omit [DecidableEq ι] in
theorem livre_atterrir (fromTimestamp : ℤ → ℤ) (now : ℤ) (db : Database) (s : Systeme ι)
    (livre : Livre fromTimestamp now db s) (k : ℕ) (id : String) :
    Livre fromTimestamp now db
      { s with serveur := s.serveur.add Ajout.chemin Ajout.data k id } := by
  intro persoId restoId
  rcases s.serveur.add_cases Ajout.chemin Ajout.data k id with same | ⟨ajout, waits, fresh, landed⟩
  · rw [same]
    exact livre persoId restoId
  · rw [landed]
    have taken := enAttente_perm fromTimestamp now _ _ (Calls.taken_perm s.serveur.calls.pending k)
      persoId restoId
    rw [waits, Option.toList_some, List.singleton_append, enAttente_cons] at taken
    calc
      enCours fromTimestamp now (s.serveur.store.set (commandes ajout.restoId) id ajout.data)
            persoId restoId +
          enAttente fromTimestamp now (s.serveur.calls.pending.eraseIdx k) persoId restoId
          = enCours fromTimestamp now s.serveur.store persoId restoId +
              enAttente fromTimestamp now s.serveur.calls.pending persoId restoId := by
        rw [enCours_set fromTimestamp now s.serveur.store ajout id persoId restoId fresh, ← taken]
        abel
      _ = enCours fromTimestamp now db persoId restoId + attendues s.confirmees persoId restoId :=
        livre persoId restoId

theorem livre_arriver (fromTimestamp : ℤ → ℤ) (now : ℤ) (db : Database) (s : Systeme ι)
    (livre : Livre fromTimestamp now db s) (event : Evenement ι) :
    Livre fromTimestamp now db (arriver user s event) := by
  cases event with
  | client i act =>
      intro persoId restoId
      simp only [arriver, Calls.start, enAttente_append, attendues_append, enAttente_ajouts]
      rw [← add_assoc, livre persoId restoId, add_assoc]
  | atterrir k id => exact livre_atterrir fromTimestamp now db s livre k id

theorem vide_sans_plus (i : ι) (s : Systeme ι) (events : List (Evenement ι))
    (others : ∀ page row, .client i (.menuPlus page row) ∉ events)
    (empty : (s.appareil i).listeCommande = []) :
    ((Machine.run (arriver user) s events).appareil i).listeCommande = [] := by
  apply Machine.run_invariant (arriver user) (fun s => (s.appareil i).listeCommande = [])
    (fun _ event => ∀ page row, event ≠ .client i (.menuPlus page row)) _ s events empty
  · rw [Machine.along_iff_prefixes]
    rintro front event back rfl page row rfl
    exact others page row (List.mem_append_right _ List.mem_cons_self)
  · intro s event held other
    cases event with
    | atterrir k id => exact held
    | client j act =>
        by_cases same : i = j
        · subst same
          have shorter := liste_step (s.appareil i) act
            (fun page row plus => other page row (by rw [plus]))
          rw [held] at shorter
          simpa [arriver] using List.sublist_nil.mp shorter
        · simpa [arriver, Function.update_of_ne same] using held

omit [DecidableEq ι] in
theorem confirmees_vide (user : Utilisateur) (d : Appareil) (act : Action)
    (empty : d.listeCommande = []) : confirmees user d act = [] := by
  cases act with
  | oui page horloge =>
      simp only [confirmees, Appareil.lignes, empty, List.map_nil]
      split
      · rfl
      · rfl
  | _ => rfl

def choisirRiz (restoId : String) : List Action :=
  [.ouvrirMenu "R" .plats, .menuRecu 0 [some ⟨"Riz", "Nos plats", .int 1000⟩],
    .menuPlus 0 0, .ouvrirCommande restoId, .valider 0]

def ada : Utilisateur := ⟨"u", some "Ada"⟩

def videDeCommandes : Database := fun _ => OrderedMap.empty

end EWallet.Commandes
