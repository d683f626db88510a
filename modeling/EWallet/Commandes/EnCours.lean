import EWallet.Commandes.Livraison
import EWallet.Facture.Page

namespace EWallet.Commandes

open Firestore

def iconCat : Option String → Option Icone := iconCat2

structure TuileCommande where
  icone : Option Icone
  nomMenu : String
  prix : String
  duree : String
  quantite : String
  percentage : ℤ
  deriving DecidableEq

def CommandeEnCours.prixEntier (commande : CommandeEnCours) : Option (Option ℤ) :=
  -- the getter is declared `int`: null passes, a double throws
  match commande.plat.prix with
  | none => some none
  | some (.int n) => some (some n)
  | some (.double _) => none

def imprimer : Option ℤ → String
  | none => "null"
  | some n => toString n

/-- `CommandeItemInfo` on an order: a name or a state that is null throws. -/
def commandeItemInfo (commande : CommandeEnCours) : Option TuileCommande := do
  let nomMenu ← commande.plat.nom
  let prix ← commande.prixEntier
  let etat ← commande.etat
  let percentage ← (etat * .int 100).toInt
  return ⟨iconCat commande.plat.categorie, nomMenu, imprimer prix ++ " Frs", commande.duree,
    imprimer commande.plat.quantite, percentage⟩

/-- What 'Commande en cours' shows. A tile that throws is an error widget in its place, an order
that cannot be decoded takes the whole section with it. -/
inductive Affichage where
  | texte (message : String)
  | attente
  | commandes (liste : List (Option TuileCommande))
  | exception

structure Reponse where
  hasError : Bool
  docs : Option (List (String × Doc))

def mesCommadesBuilder (fromTimestamp : ℤ → ℤ) (horloge : ℕ → ℤ) (snapshot : Reponse) : Affichage :=
  if snapshot.hasError then .texte "Quelque chose ne va pas, rechargez la page !"
  else
    match snapshot.docs with
    | none => .attente
    | some [] => .texte "Vous n'avez pas de commandes en cours !"
    | some commandes =>
        match (commandes.mapIdx (fun i e => testClient fromTimestamp (horloge i) e)).mapM id with
        | some liste => .commandes (liste.map commandeItemInfo)
        | none => .exception

def affichage (fromTimestamp : ℤ → ℤ) (horloge : ℕ → ℤ) (db : Database)
    (persoId restoId : String) : Affichage :=
  mesCommadesBuilder fromTimestamp horloge ⟨false, some (mesCommandes db persoId restoId)⟩

def tuileCommandee (commande : CommandeNewVersion) (duree : String) : TuileCommande :=
  ⟨iconCat commande.categorie, commande.nomMenu, toString commande.prix ++ " Frs", duree,
    toString commande.quantite, 5⟩

def Ecrit (c : Confirmee) (ajout : Ajout) : Prop :=
  ∃ user maintenant, user.persoId = c.persoId ∧
    ajout = ⟨c.restoId, document user c.restoId maintenant c.ligne⟩

theorem tuile_document (fromTimestamp : ℤ → ℤ) (now maintenant : ℤ) (id restoId : String)
    (user : Utilisateur) (commande : CommandeNewVersion) :
    (testClient fromTimestamp now (id, document user restoId maintenant commande)).bind
        commandeItemInfo =
      some (tuileCommandee commande (setDuree (now - fromTimestamp maintenant))) := by
  rw [testClient_document, Option.bind_some]
  have cent : (.double (.ofRat (1 / 20)) * .int 100 : Number).toInt = some 5 := by decide +kernel
  simp only [commandeItemInfo, CommandeNewVersion.info, CommandeEnCours.prixEntier,
    Option.bind_eq_bind, Option.bind_some, cent]
  rfl

theorem testClient_none (fromTimestamp : ℤ → ℤ) (now now' : ℤ) (entry : String × Doc)
    (undecodable : testClient fromTimestamp now entry = none) :
    testClient fromTimestamp now' entry = none := by
  simp only [testClient, Option.bind_eq_bind, Option.bind_eq_none_iff, Option.pure_def,
    reduceCtorEq, imp_false] at undecodable ⊢
  exact undecodable

theorem ecrit_ajouts (user : Utilisateur) (d : Appareil) (act : Action) (ajout : Ajout)
    (sent : ajout ∈ ajouts user d act) : ∃ c ∈ confirmees user d act, Ecrit c ajout := by
  cases act with
  | oui page horloge =>
      simp only [ajouts] at sent
      split at sent
      · cases sent
      · rename_i p shown
        simp only [confirmer, List.mem_mapIdx] at sent
        obtain ⟨i, bound, rfl⟩ := sent
        refine ⟨⟨user.persoId, p.restoId, d.lignes[i]⟩, ?_, user, horloge i, rfl, rfl⟩
        simp only [confirmees, shown]
        exact List.mem_map.mpr ⟨d.lignes[i], List.getElem_mem bound, rfl⟩
  | _ => cases sent

section Runs

variable {ι : Type*} [DecidableEq ι] {user : ι → Utilisateur}

structure Ecrites (db : Database) (s : Systeme ι) : Prop where
  store : Server.Grown Ajout.chemin Ajout.data db s.serveur
  appels : ∀ ajout ∈ s.serveur.calls.all, ∃ c ∈ s.confirmees, Ecrit c ajout

theorem ecrites_arriver (db : Database) (s : Systeme ι) (ecrites : Ecrites db s)
    (event : Evenement ι) : Ecrites db (arriver user s event) := by
  cases event with
  | atterrir k id =>
      refine ⟨Server.grown_add _ _ db s.serveur ecrites.store k id, fun ajout member => ?_⟩
      exact ecrites.appels ajout ((s.serveur.all_add _ _ k id).mem_iff.mp member)
  | client i act =>
      refine ⟨Server.grown_of_landed _ _ db s.serveur _ ecrites.store rfl rfl, ?_⟩
      intro ajout member
      simp only [arriver, Calls.all_start, List.mem_append] at member
      rcases member with old | new
      · obtain ⟨c, confirmed, made⟩ := ecrites.appels ajout old
        exact ⟨c, List.mem_append_left _ confirmed, made⟩
      · obtain ⟨c, confirmed, made⟩ := ecrit_ajouts (user i) (s.appareil i) act ajout new
        exact ⟨c, List.mem_append_right _ confirmed, made⟩

theorem ecrites_run (db : Database) (appareil : ι → Appareil) (events : List (Evenement ι)) :
    Ecrites db (Machine.run (arriver user) (ouverture db appareil) events) := by
  apply Machine.run_preserves (arriver user) (Ecrites db)
  · exact fun s event ecrites => ecrites_arriver db s ecrites event
  · exact ⟨Server.grown_start _ _ db, fun _ member => absurd member List.not_mem_nil⟩

omit [DecidableEq ι] in
theorem mesCommandes_ecrites (db : Database) (s : Systeme ι) (ecrites : Ecrites db s)
    (persoId restoId : String) :
    (∀ e ∈ mesCommandes db persoId restoId, e ∈ mesCommandes s.serveur.store persoId restoId) ∧
      ∀ e ∈ mesCommandes s.serveur.store persoId restoId, e ∈ mesCommandes db persoId restoId ∨
        ∃ c ∈ s.confirmees, c.persoId = persoId ∧ c.restoId = restoId ∧
          ∃ user maintenant, e.2 = document user restoId maintenant c.ligne := by
  constructor
  · rintro ⟨id, data⟩ member
    obtain ⟨listed, his⟩ := (Database.mem_query _ _ _ _ _).mp member
    exact (Database.mem_query _ _ _ _ _).mpr ⟨ecrites.store.kept _ _ _ listed, his⟩
  · rintro ⟨id, data⟩ member
    obtain ⟨listed, his⟩ := (Database.mem_query _ _ _ _ _).mp member
    rcases ecrites.store.added _ _ _ listed with old | ⟨ajout, landed, path, rfl⟩
    · exact Or.inl ((Database.mem_query _ _ _ _ _).mpr ⟨old, his⟩)
    · obtain ⟨c, confirmed, user, maintenant, client, rfl⟩ :=
        ecrites.appels ajout (s.serveur.calls.mem_landed landed)
      obtain rfl := (commandes_inj _ _).mp path
      refine Or.inr ⟨c, confirmed, ?_, rfl, user, maintenant, rfl⟩
      simpa [document_client, client] using his

end Runs

theorem affichage_exception (fromTimestamp : ℤ → ℤ) (horloge : ℕ → ℤ) (db : Database)
    (persoId restoId : String) :
    affichage fromTimestamp horloge db persoId restoId = .exception ↔
      ∃ e ∈ mesCommandes db persoId restoId, testClient fromTimestamp 0 e = none := by
  have decoded : (∃ x ∈ (mesCommandes db persoId restoId).mapIdx
      (fun i e => testClient fromTimestamp (horloge i) e), id x = none) ↔
      ∃ e ∈ mesCommandes db persoId restoId, testClient fromTimestamp 0 e = none := by
    constructor
    · rintro ⟨x, member, none_⟩
      obtain ⟨i, bound, rfl⟩ := List.mem_mapIdx.mp member
      exact ⟨_, List.getElem_mem bound, testClient_none fromTimestamp (horloge i) 0 _ none_⟩
    · rintro ⟨e, member, none_⟩
      obtain ⟨i, bound, rfl⟩ := List.getElem_of_mem member
      exact ⟨_, List.mem_mapIdx.mpr ⟨i, bound, rfl⟩, testClient_none fromTimestamp 0 _ _ none_⟩
  rw [← decoded, ← Decoding.mapM_eq_none_iff]
  simp only [affichage, mesCommadesBuilder, Bool.false_eq_true, if_false]
  split
  · rename_i none_
    cases none_
  · rename_i empty
    rw [Option.some.injEq] at empty
    simp [empty]
  · rename_i liste _ same
    rw [Option.some.injEq] at same
    rw [same]
    split
    · rename_i found all
      simp [all]
    · rename_i none_
      simp [none_]

theorem affichage_commandes (fromTimestamp : ℤ → ℤ) (horloge : ℕ → ℤ) (db : Database)
    (persoId restoId : String) (liste : List (Option TuileCommande))
    (shown : affichage fromTimestamp horloge db persoId restoId = .commandes liste) (i : ℕ)
    (tuile : Option TuileCommande) (at_ : liste[i]? = some tuile) :
    ∃ e ∈ mesCommandes db persoId restoId,
      tuile = (testClient fromTimestamp (horloge i) e).bind commandeItemInfo := by
  simp only [affichage, mesCommadesBuilder, Bool.false_eq_true, if_false] at shown
  split at shown
  · cases shown
  · cases shown
  · rename_i commandes _ same
    rw [Option.some.injEq] at same
    split at shown
    · rename_i found all
      cases shown
      rw [List.getElem?_map, Option.map_eq_some_iff] at at_
      obtain ⟨commande, here, rfl⟩ := at_
      rw [Decoding.getElem?_mapM _ found all i, List.getElem?_mapIdx, Option.bind_eq_some_iff]
        at here
      obtain ⟨x, there, decoded⟩ := here
      obtain ⟨e, listed, rfl⟩ := Option.map_eq_some_iff.mp there
      refine ⟨e, same ▸ List.mem_of_getElem? listed, ?_⟩
      rw [show testClient fromTimestamp (horloge i) e = some commande from decoded]
      rfl
    · cases shown

/-- The orders that devices send never break the section of anyone: in every state of a run of
all clients it throws if and only if one of the orders that were there at the start cannot be
decoded, and each tile is that of an order that was there or the complete tile of a line that the
user confirmed there, five percent done. -/
theorem orders_never_break_the_section {ι : Type*} [DecidableEq ι] (user : ι → Utilisateur)
    (fromTimestamp : ℤ → ℤ) (horloge : ℕ → ℤ) (db : Database) (appareil : ι → Appareil)
    (events : List (Evenement ι)) (persoId restoId : String) :
    let s := Machine.run (arriver user) (ouverture db appareil) events
    (affichage fromTimestamp horloge s.serveur.store persoId restoId = .exception ↔
        ∃ e ∈ mesCommandes db persoId restoId, testClient fromTimestamp 0 e = none) ∧
      ∀ liste, affichage fromTimestamp horloge s.serveur.store persoId restoId = .commandes liste →
        ∀ i tuile, liste[i]? = some tuile →
          (∃ e ∈ mesCommandes db persoId restoId,
            tuile = (testClient fromTimestamp (horloge i) e).bind commandeItemInfo) ∨
          ∃ c ∈ s.confirmees, c.persoId = persoId ∧ c.restoId = restoId ∧
            ∃ maintenant, tuile = some (tuileCommandee c.ligne
              (setDuree (horloge i - fromTimestamp maintenant))) := by
  intro s
  have ecrites : Ecrites db s := ecrites_run db appareil events
  obtain ⟨kept, added⟩ := mesCommandes_ecrites db s ecrites persoId restoId
  constructor
  · rw [affichage_exception]
    constructor
    · rintro ⟨⟨id, data⟩, member, none_⟩
      rcases added _ member with old | ⟨c, _, _, _, client, maintenant, written⟩
      · exact ⟨_, old, none_⟩
      · dsimp only at written
        rw [written, testClient_document] at none_
        cases none_
    · rintro ⟨e, member, none_⟩
      exact ⟨e, kept e member, none_⟩
  · intro liste shown i tuile at_
    obtain ⟨⟨id, data⟩, member, rfl⟩ := affichage_commandes fromTimestamp horloge s.serveur.store
      persoId restoId liste shown i tuile at_
    rcases added _ member with old | ⟨c, confirmed, his, here, client, maintenant, written⟩
    · exact Or.inl ⟨_, old, rfl⟩
    · refine Or.inr ⟨c, confirmed, his, here, maintenant, ?_⟩
      dsimp only at written
      rw [written]
      exact tuile_document fromTimestamp (horloge i) maintenant id restoId client c.ligne

end EWallet.Commandes
