import EWallet.Session.Parcours
import EWallet.Commandes.Bilan
import EWallet.Library.Delivery
import Mathlib.Algebra.BigOperators.Group.Finset.Basic

namespace EWallet.Session

open Firestore Commandes

structure Client where
  user : Utilisateur
  parcours : Parcours

/-- A call of `add`, with the user who was signed in and the restaurants of the `+` taps that made
the line. -/
structure Envoi where
  client : Utilisateur
  ajout : Ajout
  taps : List String

namespace Client

def appareil (c : Client) : Appareil := c.parcours.suivi.appareil

def action (c : Client) (i : Interaction) : Option Action := c.parcours.navigation.action i

def toucher (c : Client) (i : Interaction) : Client :=
  { c with parcours := parcourir c.user c.parcours i }

def envois (c : Client) (i : Interaction) : List Envoi :=
  (c.action i).elim [] (fun act =>
    (Commandes.envois c.user c.appareil c.parcours.suivi.taps act).map
      (fun e => ⟨c.user, e.1, e.2⟩))

def connecter (c : Client) (attente : Attente) (user : Utilisateur) : Client :=
  if attente.vers = .mainScreen ∧ attente.depuis ∈ c.parcours.pages then
    { c.toucher (.pushReplacement attente) with user := user }
  else c

end Client

/-- The devices, and the server with the calls to it. -/
structure Reseau (ι : Type*) where
  serveur : Server Envoi
  clients : ι → Client

def Envoi.chemin (e : Envoi) : Path := e.ajout.chemin

def Envoi.data (e : Envoi) : Doc := e.ajout.data

namespace Reseau

/-- Someone taps on a device, signs in there or launches the application, which forgets the cart
but not the calls it has made; or a call reaches the server, or never will. -/
inductive Evenement (ι : Type*) where
  | toucher (i : ι) (interaction : Interaction)
  | connecter (i : ι) (attente : Attente) (user : Utilisateur)
  | lancer (i : ι) (user : Utilisateur)
  | atterrir (k : ℕ) (id : String)
  | rejeter (k : ℕ)

variable {ι : Type*} [DecidableEq ι]

def arriver (s : Reseau ι) : Evenement ι → Reseau ι
  | .toucher i interaction =>
      { serveur := ⟨s.serveur.store, s.serveur.calls.start ((s.clients i).envois interaction)⟩
        clients := Function.update s.clients i ((s.clients i).toucher interaction) }
  | .connecter i attente user =>
      { s with clients := Function.update s.clients i ((s.clients i).connecter attente user) }
  | .lancer i user => { s with clients := Function.update s.clients i ⟨user, depart⟩ }
  | .atterrir k id => { s with serveur := s.serveur.add Envoi.chemin Envoi.data k id }
  | .rejeter k => { s with serveur := ⟨s.serveur.store, s.serveur.calls.refuse k⟩ }

def ouverture (db : Database) (users : ι → Utilisateur) : Reseau ι :=
  ⟨⟨db, .none⟩, fun i => ⟨users i, depart⟩⟩

def PaniersVides (s : Reseau ι) : Evenement ι → Prop
  | .toucher i interaction => PanierVide (s.clients i).parcours interaction
  | _ => True

instance (s : Reseau ι) : DecidablePred (PaniersVides s) := fun event =>
  match event with
  | .toucher i interaction =>
      inferInstanceAs (Decidable (PanierVide (s.clients i).parcours interaction))
  | .connecter _ _ _ => inferInstanceAs (Decidable True)
  | .lancer _ _ => inferInstanceAs (Decidable True)
  | .atterrir _ _ => inferInstanceAs (Decidable True)
  | .rejeter _ => inferInstanceAs (Decidable True)

structure Loyal (e : Envoi) : Prop where
  taps : e.taps ≠ [] ∧ ∀ t ∈ e.taps, t = e.ajout.restoId
  ecrit : ∃ maintenant commande,
    e.ajout.data = document e.client e.ajout.restoId maintenant commande

structure Honnete (s : Reseau ι) : Prop where
  clients : ∀ i, Coherente (s.clients i).parcours.navigation ∧ Siennes (s.clients i).parcours
  appels : ∀ e ∈ s.serveur.calls.all, Loyal e

theorem ecrit_envois (user : Utilisateur) (d : Appareil) (taps : ℕ → List String) (act : Action)
    (e : Ajout × List String) (sent : e ∈ Commandes.envois user d taps act) :
    ∃ maintenant commande, e.1.data = document user e.1.restoId maintenant commande := by
  cases act with
  | oui page horloge =>
      simp only [Commandes.envois] at sent
      split at sent
      · cases sent
      · rename_i p shown
        obtain ⟨k, bound, rfl⟩ := List.mem_mapIdx.mp sent
        exact ⟨horloge k, d.objets d.listeCommande[k], rfl⟩
  | _ => cases sent

theorem loyal_envois (c : Client) (i : Interaction)
    (fideles : Fideles (c.toucher i).parcours.suivi) : ∀ e ∈ c.envois i, Loyal e := by
  intro e sent
  cases acts : c.action i with
  | none =>
      rw [Client.envois, acts] at sent
      cases sent
  | some act =>
      rw [Client.envois, acts, Option.elim_some, List.mem_map] at sent
      obtain ⟨e', made, rfl⟩ := sent
      have moved : (c.toucher i).parcours.suivi = tracer c.user c.parcours.suivi act := by
        change (c.parcours.navigation.action i).elim _ _ = _
        rw [show c.parcours.navigation.action i = some act from acts, Option.elim_some]
      rw [moved] at fideles
      exact ⟨fideles.envoyes e' (List.mem_append_right _ made),
        ecrit_envois c.user c.appareil c.parcours.suivi.taps act e' made⟩

theorem arrive_pushReplacement (s : Navigation) (attente : Attente) :
    arrive s (.pushReplacement attente) = false := by
  rw [arrive, Navigation.suite]
  split
  · rw [base_sans_visite _ _ (vers_base attente), Bool.false_and]
  · simp

theorem connecter_tient (P : Parcours → Prop) (c : Client) (attente : Attente)
    (user : Utilisateur) (held : P c.parcours)
    (moved : P (c.toucher (.pushReplacement attente)).parcours) :
    P (c.connecter attente user).parcours := by
  unfold Client.connecter
  split
  · exact moved
  · exact held

theorem tient_toucher (c : Client) (i : Interaction)
    (held : Coherente c.parcours.navigation ∧ Siennes c.parcours)
    (empty : PanierVide c.parcours i) :
    Coherente (c.toucher i).parcours.navigation ∧ Siennes (c.toucher i).parcours := by
  refine ⟨?_, siennes_parcourir c.user c.parcours i held.1 held.2 empty⟩
  rw [Client.toucher, navigation_parcourir]
  exact coherente_naviguer _ i held.1

theorem honnete_client (s : Reseau ι) (honnete : Honnete s) (i : ι) (c : Client)
    (calls : List Envoi)
    (kept : Coherente c.parcours.navigation ∧ Siennes c.parcours)
    (loyal : ∀ e ∈ calls, Loyal e) :
    Honnete ⟨⟨s.serveur.store, s.serveur.calls.start calls⟩, Function.update s.clients i c⟩ where
  clients := (Function.forall_update_iff s.clients
    (fun _ c => Coherente c.parcours.navigation ∧ Siennes c.parcours)).mpr
      ⟨kept, fun j _ => honnete.clients j⟩
  appels e member := by
    rw [Calls.all_start, List.mem_append] at member
    rcases member with old | new
    · exact honnete.appels e old
    · exact loyal e new

omit [DecidableEq ι] in
theorem honnete_reponse (s s' : Reseau ι) (honnete : Honnete s) (clients : s'.clients = s.clients)
    (appels : s'.serveur.calls.all.Perm s.serveur.calls.all) : Honnete s' where
  clients := clients ▸ honnete.clients
  appels e member := honnete.appels e (appels.mem_iff.mp member)

theorem honnete_arriver (s : Reseau ι) (event : Evenement ι) (honnete : Honnete s)
    (empty : PaniersVides s event) : Honnete (arriver s event) := by
  cases event with
  | toucher i interaction =>
      have after := tient_toucher (s.clients i) interaction (honnete.clients i) empty
      exact honnete_client s honnete i _ _ after
        (loyal_envois (s.clients i) interaction after.2.fideles)
  | connecter i attente user =>
      have after := tient_toucher (s.clients i) (.pushReplacement attente) (honnete.clients i)
        (fun comes => absurd comes (by simp [arrive_pushReplacement]))
      have moved := honnete_client s honnete i ((s.clients i).connecter attente user) []
        (connecter_tient (fun p => Coherente p.navigation ∧ Siennes p) (s.clients i) attente user
          (honnete.clients i) after)
        (fun e none_ => absurd none_ List.not_mem_nil)
      rwa [Calls.start, List.append_nil] at moved
  | lancer i user =>
      have moved := honnete_client s honnete i ⟨user, depart⟩ []
        ⟨coherente_accueil, siennes_depart⟩ (fun e none_ => absurd none_ List.not_mem_nil)
      rwa [Calls.start, List.append_nil] at moved
  | atterrir k id => exact honnete_reponse s _ honnete rfl (s.serveur.all_add _ _ k id)
  | rejeter k => exact honnete_reponse s _ honnete rfl (s.serveur.calls.all_refuse k)

def stock (w : Poids) (db : Database) (restoId : String) : ℤ :=
  ((db (commandes restoId)).entries.map (fun e => Ajout.valeur w ⟨restoId, e.2⟩)).sum

def recu (w : Poids) (appels : Calls Envoi) (restoId : String) : ℤ :=
  ((appels.landed.filter (fun e => e.ajout.restoId = restoId)).map (fun e => e.ajout.valeur w)).sum

structure Enregistre (db : Database) (s : Server Envoi) : Prop where
  grown : Server.Grown Envoi.chemin Envoi.data db s
  stock : ∀ w restoId, stock w s.store restoId = stock w db restoId + recu w s.calls restoId

theorem stock_set (w : Poids) (db : Database) (ajout : Ajout) (id restoId : String)
    (fresh : db.doc? (commandes ajout.restoId) id = none) :
    stock w (db.set (commandes ajout.restoId) id ajout.data) restoId =
      stock w db restoId + if ajout.restoId = restoId then ajout.valeur w else 0 := by
  by_cases here : ajout.restoId = restoId
  · subst here
    have inserted := ((db (commandes ajout.restoId)).insert_perm id ajout.data fresh).map
      (fun e => Ajout.valeur w ⟨ajout.restoId, e.2⟩)
    rw [stock, Database.set, Function.update_self, inserted.sum_eq, List.map_cons, List.sum_cons,
      if_pos rfl, add_comm, stock]
  · rw [stock, Database.set, Function.update_of_ne (by simpa using Ne.symm here), if_neg here,
      add_zero, stock]

theorem enregistre_calme (db : Database) (s s' : Server Envoi) (enregistre : Enregistre db s)
    (store : s'.store = s.store) (landed : s'.calls.landed = s.calls.landed) :
    Enregistre db s' where
  grown := Server.grown_of_landed _ _ db s s' enregistre.grown store landed
  stock w restoId := by
    rw [store, recu, landed]
    exact enregistre.stock w restoId

theorem enregistre_atterrir (db : Database) (s : Server Envoi) (enregistre : Enregistre db s)
    (k : ℕ) (id : String) : Enregistre db (s.add Envoi.chemin Envoi.data k id) where
  grown := Server.grown_add _ _ db s enregistre.grown k id
  stock w restoId := by
    rcases s.add_cases Envoi.chemin Envoi.data k id with same | ⟨e, waits, fresh, landed⟩
    · rw [same]
      exact enregistre.stock w restoId
    · have arrived : recu w (s.calls.land k) restoId =
          recu w s.calls restoId + if e.ajout.restoId = restoId then e.ajout.valeur w else 0 := by
        rw [recu, recu, Calls.land, waits, Option.toList_some, List.filter_append, List.map_append,
          List.sum_append]
        by_cases here : e.ajout.restoId = restoId
        · simp [here]
        · simp [here]
      calc
        stock w (s.add Envoi.chemin Envoi.data k id).store restoId
            = stock w (s.store.set (commandes e.ajout.restoId) id e.ajout.data) restoId := by
          rw [landed]
          rfl
        _ = stock w s.store restoId + if e.ajout.restoId = restoId then e.ajout.valeur w else 0 :=
          stock_set w s.store e.ajout id restoId fresh
        _ = stock w db restoId + recu w (s.add Envoi.chemin Envoi.data k id).calls restoId := by
          rw [enregistre.stock w restoId, landed, arrived, add_assoc]

theorem enregistre_arriver (db : Database) (s : Reseau ι) (event : Evenement ι)
    (enregistre : Enregistre db s.serveur) : Enregistre db (arriver s event).serveur := by
  cases event with
  | atterrir k id => exact enregistre_atterrir db s.serveur enregistre k id
  | toucher i interaction => exact enregistre_calme db s.serveur _ enregistre rfl rfl
  | connecter i attente user => exact enregistre
  | lancer i user => exact enregistre
  | rejeter k => exact enregistre_calme db s.serveur _ enregistre rfl rfl

theorem enregistre_run (db : Database) (users : ι → Utilisateur) (events : List (Evenement ι)) :
    Enregistre db (Machine.run arriver (ouverture db users) events).serveur := by
  apply Machine.run_preserves arriver (fun s => Enregistre db s.serveur)
  · exact fun s event enregistre => enregistre_arriver db s event enregistre
  · refine ⟨Server.grown_start _ _ db, fun w restoId => ?_⟩
    simp [ouverture, recu, Calls.none]

/-- However many clients tap, sign in and launch, and in whatever order their calls land or get
lost, as long as no device comes to a restaurant with a line in its cart: every order that a
restaurant has received names that restaurant and whoever was signed in, and its line was made by
`+` taps on the menus of that restaurant. No order is ever overwritten. -/
theorem orders_stored_where_picked (db : Database) (users : ι → Utilisateur)
    (events : List (Evenement ι))
    (empty : Machine.Along arriver PaniersVides (ouverture db users) events) :
    ∀ front back, events = front ++ back →
      let s := Machine.run arriver (ouverture db users) front
      (∀ path id data, db.doc? path id = some data → s.serveur.store.doc? path id = some data) ∧
      ∀ restoId id data, s.serveur.store.doc? (commandes restoId) id = some data →
        db.doc? (commandes restoId) id = some data ∨
        ∃ e ∈ s.serveur.calls.landed, e.ajout = ⟨restoId, data⟩ ∧
          e.taps ≠ [] ∧ (∀ t ∈ e.taps, t = restoId) ∧
          data.string? "id du restaurant" = some restoId ∧
          data.string? "id du client" = some e.client.persoId := by
  intro front back split s
  rw [split, Machine.along_append] at empty
  have honnete : Honnete s := Machine.run_invariant arriver Honnete PaniersVides honnete_arriver
    (ouverture db users) front
    ⟨fun i => ⟨coherente_accueil, siennes_depart⟩, fun e none_ => absurd none_ List.not_mem_nil⟩
    empty.1
  have enregistre := enregistre_run db users front
  refine ⟨enregistre.grown.kept, fun restoId id data found => ?_⟩
  rcases enregistre.grown.added _ id data found with old | ⟨e, landed, path, rfl⟩
  · exact Or.inl old
  · obtain ⟨⟨some_, same⟩, maintenant, commande, written⟩ :=
      honnete.appels e (s.serveur.calls.mem_landed landed)
    obtain rfl := (commandes_inj _ _).mp path
    refine Or.inr ⟨e, landed, rfl, some_, same, ?_, ?_⟩
    · rw [Envoi.data, written, document_restaurant]
    · rw [Envoi.data, written, document_client]

section Comptes

variable (w : Poids)

def entrees (s : Reseau ι) : Evenement ι → ℤ
  | .toucher i interaction =>
      ((s.clients i).action interaction).elim 0 (entree w (s.clients i).appareil)
  | _ => 0

def sorties (s : Reseau ι) : Evenement ι → ℤ
  | .toucher i interaction =>
      ((s.clients i).action interaction).elim 0 (sortie w (s.clients i).appareil)
  | .lancer i _ => (s.clients i).appareil.valeur w
  | _ => 0

def appelle (appels : Calls Envoi) : ℤ := (appels.all.map (fun e => e.ajout.valeur w)).sum

theorem valeur_toucher (c : Client) (i : Interaction) (ordonne : Ordonne c.appareil) :
    Ordonne (c.toucher i).appareil ∧
      (c.toucher i).appareil.valeur w + (c.action i).elim 0 (sortie w c.appareil) +
          ((c.envois i).map (fun e => e.ajout.valeur w)).sum =
        c.appareil.valeur w + (c.action i).elim 0 (entree w c.appareil) := by
  have moved : (c.toucher i).appareil = (c.action i).elim c.appareil (step c.appareil) := by
    change ((c.parcours.navigation.action i).elim c.parcours.suivi _).appareil = _
    rw [Client.action]
    cases c.parcours.navigation.action i with
    | none => rfl
    | some act => rfl
  rw [moved, Client.envois]
  cases c.action i with
  | none => exact ⟨ordonne, by simp⟩
  | some act =>
      have sent := congrArg (fun l : List Ajout => (l.map (Ajout.valeur w)).sum)
        (envois_ajouts c.user c.appareil c.parcours.suivi.taps act)
      rw [List.map_map] at sent
      refine ⟨ordonne_step c.appareil act ordonne, ?_⟩
      simp only [Option.elim_some, List.map_map]
      rw [← valeur_step w c.user c.appareil ordonne act, ← sent]
      rfl

theorem valeur_connecter (c : Client) (attente : Attente) (user : Utilisateur)
    (ordonne : Ordonne c.appareil) : Ordonne (c.connecter attente user).appareil ∧
      (c.connecter attente user).appareil.valeur w = c.appareil.valeur w := by
  obtain ⟨kept, moved⟩ := valeur_toucher w c (.pushReplacement attente) ordonne
  have quiet : (c.toucher (.pushReplacement attente)).appareil.valeur w = c.appareil.valeur w := by
    rw [Client.envois] at moved
    cases acts : c.action (.pushReplacement attente) with
    | none => simpa [acts] using moved
    | some act =>
        have agit := agit_of_action c.parcours.navigation _ act acts
        cases agit with
        | fermerMenu _ leaves page => simpa [acts, sortie, entree, Commandes.envois] using moved
        | fermerCommande _ leaves page => simpa [acts, sortie, entree, Commandes.envois] using moved
  exact connecter_tient (fun p => Ordonne p.suivi.appareil ∧
    p.suivi.appareil.valeur w = c.appareil.valeur w) c attente user ⟨ordonne, rfl⟩ ⟨kept, quiet⟩

variable [Fintype ι]

def mesure (s : Reseau ι) : ℤ := ∑ i, (s.clients i).appareil.valeur w + appelle w s.serveur.calls

theorem somme_clients (clients : ι → Client) (i : ι) (c : Client) :
    ∑ j, (Function.update clients i c j).appareil.valeur w + (clients i).appareil.valeur w =
      ∑ j, (clients j).appareil.valeur w + c.appareil.valeur w := by
  have others : ∀ j ∈ Finset.univ.erase i,
      (Function.update clients i c j).appareil.valeur w = (clients j).appareil.valeur w := by
    intro j different
    rw [Function.update_of_ne (Finset.ne_of_mem_erase different)]
  rw [← Finset.add_sum_erase _ _ (Finset.mem_univ i), Finset.sum_congr rfl others,
    ← Finset.add_sum_erase _ (fun j => (clients j).appareil.valeur w) (Finset.mem_univ i),
    Function.update_self]
  omega

theorem mesure_arriver (s : Reseau ι) (event : Evenement ι)
    (ordonnes : ∀ i, Ordonne (s.clients i).appareil) :
    mesure w (arriver s event) + sorties w s event = mesure w s + entrees w s event := by
  cases event with
  | toucher i interaction =>
      have moved := somme_clients w s.clients i ((s.clients i).toucher interaction)
      have stepped := (valeur_toucher w (s.clients i) interaction (ordonnes i)).2
      simp only [mesure, arriver, sorties, entrees, appelle, Calls.all_start, List.map_append,
        List.sum_append]
      omega
  | connecter i attente user =>
      have moved := somme_clients w s.clients i ((s.clients i).connecter attente user)
      have kept := (valeur_connecter w (s.clients i) attente user (ordonnes i)).2
      simp only [mesure, arriver, sorties, entrees]
      omega
  | lancer i user =>
      have moved := somme_clients w s.clients i ⟨user, depart⟩
      have empty : (Client.mk user depart).appareil.valeur w = 0 := rfl
      simp only [mesure, arriver, sorties, entrees]
      omega
  | atterrir k id =>
      simp only [mesure, arriver, sorties, entrees, appelle,
        ((s.serveur.all_add Envoi.chemin Envoi.data k id).map _).sum_eq]
  | rejeter k =>
      simp only [mesure, arriver, sorties, entrees, appelle,
        ((s.serveur.calls.all_refuse k).map _).sum_eq]

omit [Fintype ι] in
theorem ordonnes_arriver (s : Reseau ι) (event : Evenement ι)
    (ordonnes : ∀ i, Ordonne (s.clients i).appareil) :
    ∀ i, Ordonne ((arriver s event).clients i).appareil := by
  have one : ∀ i c, Ordonne (Client.appareil c) →
      ∀ j, Ordonne (Function.update s.clients i c j).appareil := by
    intro i c fine
    exact (Function.forall_update_iff s.clients (fun _ c => Ordonne c.appareil)).mpr
      ⟨fine, fun j _ => ordonnes j⟩
  cases event with
  | toucher i interaction =>
      exact one i _ (valeur_toucher (fun _ _ _ => 0) (s.clients i) interaction (ordonnes i)).1
  | connecter i attente user =>
      exact one i _ (valeur_connecter (fun _ _ _ => 0) (s.clients i) attente user (ordonnes i)).1
  | lancer i user => exact one i _ ordonne_lancement
  | atterrir k id => exact ordonnes
  | rejeter k => exact ordonnes

/-- The accounts of all devices and restaurants together: in every state of every run, and by any
weight of the units, what the taps have brought into the carts is in a cart, was taken back or
forgotten with one, is on its way, got lost, or has been received; and a restaurant holds what it
held and what it has received. -/
theorem units_accounted_for_across_clients (db : Database) (users : ι → Utilisateur)
    (events : List (Evenement ι)) :
    let s := Machine.run arriver (ouverture db users) events
    ∑ i, (s.clients i).appareil.valeur w +
        (Machine.trace arriver (sorties w) (ouverture db users) events).sum +
        (s.serveur.calls.pending.map (fun e => e.ajout.valeur w)).sum +
        (s.serveur.calls.refused.map (fun e => e.ajout.valeur w)).sum +
        (s.serveur.calls.landed.map (fun e => e.ajout.valeur w)).sum =
      (Machine.trace arriver (entrees w) (ouverture db users) events).sum ∧
    ∀ restoId, stock w s.serveur.store restoId =
      stock w db restoId + recu w s.serveur.calls restoId := by
  intro s
  have total := Machine.run_balance arriver (fun s => ∀ i, Ordonne (s.clients i).appareil)
    (mesure w) (entrees w) (sorties w) ordonnes_arriver (mesure_arriver w) (ouverture db users)
    events (fun i => ordonne_lancement)
  have start : mesure w (ouverture db users) = 0 := by
    simp [mesure, ouverture, Client.appareil, depart, sansTap, lancement, Appareil.valeur, appelle,
      Calls.all, Calls.none]
  have calls : appelle w s.serveur.calls = _ :=
    Calls.sum_all (fun e : Envoi => e.ajout.valeur w) s.serveur.calls
  refine ⟨?_, fun restoId => (enregistre_run db users events).stock w restoId⟩
  change ∑ i, (s.clients i).appareil.valeur w + appelle w s.serveur.calls + _ = _ at total
  rw [start, zero_add, calls] at total
  omega

end Comptes

def deuxClients : List (Evenement Bool) :=
  (deuxVisites.take 11).map (.toucher false) ++ (deuxVisites.take 11).map (.toucher true) ++
    [.lancer true Commandes.ada, .atterrir 0 "a",
      .connecter false .initializeFirebase ⟨"b", some "Bob"⟩,
      .atterrir 0 "b"]

theorem orders_of_two_clients :
    let s := Machine.run arriver (ouverture magasinVide (fun _ => Commandes.ada)) deuxClients
    s.serveur.calls.landed.map (fun e => (e.ajout.restoId, e.taps)) = [("R", ["R"]), ("R", ["R"])] ∧
      (magasinVide.doc? (commandes "R") "b" =
          some (document Commandes.ada "R" 0 ⟨"Riz", some "plats", 1000, 1⟩) ∨
        ∃ e ∈ s.serveur.calls.landed,
          e.ajout = ⟨"R", document Commandes.ada "R" 0 ⟨"Riz", some "plats", 1000, 1⟩⟩ ∧
          e.taps ≠ [] ∧ (∀ t ∈ e.taps, t = "R") ∧
          (document Commandes.ada "R" 0 ⟨"Riz", some "plats", 1000, 1⟩).string?
            "id du restaurant" = some "R" ∧
          (document Commandes.ada "R" 0 ⟨"Riz", some "plats", 1000, 1⟩).string?
            "id du client" = some e.client.persoId) :=
  ⟨by decide +kernel, (orders_stored_where_picked magasinVide (fun _ => Commandes.ada) deuxClients
    (by decide +kernel) deuxClients [] (List.append_nil _).symm).2 "R" "b" _ rfl⟩

end Reseau

end EWallet.Session
