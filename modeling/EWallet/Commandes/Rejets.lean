import EWallet.Commandes.Livraison

namespace EWallet.Commandes

open Firestore

/-- The fate of calls of `add` made together: the call with index `i` is accepted, under an id
that Firestore draws, or rejected. -/
def ecrire (tirage : Database.Tirage) (db : Database) (accepte : ℕ → Bool) :
    List Ajout → Database
  | [] => db
  | ajout :: rest =>
      ecrire tirage
        (if accepte 0 then
          db.set (commandes ajout.restoId) (tirage.tirer db (commandes ajout.restoId)) ajout.data
        else db)
        (fun i => accepte (i + 1)) rest

def acceptees (accepte : ℕ → Bool) : List CommandeNewVersion → List CommandeNewVersion
  | [] => []
  | ligne :: rest =>
      if accepte 0 then ligne :: acceptees (fun i => accepte (i + 1)) rest
      else acceptees (fun i => accepte (i + 1)) rest

theorem acceptees_length (accepte : ℕ → Bool) (lignes : List CommandeNewVersion) :
    (acceptees accepte lignes).length ≤ lignes.length := by
  induction lignes generalizing accepte with
  | nil => exact Nat.le_refl 0
  | cons ligne rest ih =>
      have tail := ih (fun i => accepte (i + 1))
      simp only [acceptees, List.length_cons]
      split
      · simp only [List.length_cons]
        omega
      · omega

theorem acceptees_toutes (accepte : ℕ → Bool) (lignes : List CommandeNewVersion)
    (all : ∀ i < lignes.length, accepte i = true) : acceptees accepte lignes = lignes := by
  induction lignes generalizing accepte with
  | nil => rfl
  | cons ligne rest ih =>
      have first := all 0 (by simp)
      have tail := ih (fun i => accepte (i + 1)) (fun i bound => all (i + 1) (by simpa using bound))
      simp only [acceptees, first, tail, if_true]

theorem toutes_of_length (accepte : ℕ → Bool) (lignes : List CommandeNewVersion)
    (same : (acceptees accepte lignes).length = lignes.length) :
    ∀ i < lignes.length, accepte i = true := by
  induction lignes generalizing accepte with
  | nil =>
      intro i bound
      cases bound
  | cons ligne rest ih =>
      have short := acceptees_length (fun i => accepte (i + 1)) rest
      simp only [acceptees, List.length_cons] at same
      split at same
      · rename_i first
        intro i bound
        cases i with
        | zero => exact first
        | succ i =>
            exact ih (fun i => accepte (i + 1)) (by simpa using same) i (by simpa using bound)
      · omega

def restantes (d : Appareil) : Multiset (Option MenuInfoCommande) :=
  ((d.lignes.map (fun ligne => some ligne.info) : List _) : Multiset _)

theorem enCours_ecrire (fromTimestamp : ℤ → ℤ) (now : ℤ) (tirage : Database.Tirage)
    (user : Utilisateur) (restoId : String) (horloge : ℕ → ℤ) (accepte : ℕ → Bool)
    (lignes : List CommandeNewVersion) (db : Database) :
    enCours fromTimestamp now (ecrire tirage db accepte (confirmer user restoId horloge lignes))
        user.persoId restoId =
      (((acceptees accepte lignes).map (fun ligne => some ligne.info) : List _) : Multiset _) +
        enCours fromTimestamp now db user.persoId restoId := by
  induction lignes generalizing db horloge accepte with
  | nil => simp [confirmer, ecrire, acceptees]
  | cons ligne rest ih =>
      rw [confirmer_cons, ecrire, ih]
      simp only [acceptees]
      by_cases first : accepte 0 = true
      · have landed := enCours_set fromTimestamp now db
          ⟨restoId, document user restoId (horloge 0) ligne⟩
          (tirage.tirer db (commandes restoId)) user.persoId restoId (tirage.neuf db _)
        rw [if_pos first, if_pos first, landed,
          if_pos ⟨rfl, document_client user restoId (horloge 0) ligne⟩, montre_document,
          List.map_cons, ← Multiset.cons_coe, ← Multiset.singleton_add]
        abel
      · rw [if_neg first, if_neg first]

structure Tap where
  horloge : ℕ → ℤ
  accepte : ℕ → Bool

structure Poste where
  store : Database
  appareil : Appareil

section Taps

variable (tirage : Database.Tirage) (user : Utilisateur) (page : ℕ)

def taper (s : Poste) (tap : Tap) : Poste where
  store := ecrire tirage s.store tap.accepte (ajouts user s.appareil (.oui page tap.horloge))
  appareil := step s.appareil (.oui page tap.horloge)

/-- Every line that was in the cart is stored exactly once or is still in the cart. -/
def Gardees (fromTimestamp : ℤ → ℤ) (now : ℤ) (restoId : String) (s₀ s : Poste) : Prop :=
  enCours fromTimestamp now s.store user.persoId restoId + restantes s.appareil =
    enCours fromTimestamp now s₀.store user.persoId restoId + restantes s₀.appareil

/-- No call for a line of the cart is rejected. -/
def SansRejet (s : Poste) (tap : Tap) : Prop :=
  ∀ i < s.appareil.lignes.length, tap.accepte i = true

theorem dialogue_oui (d : Appareil) (p : PageCommande) (shown : d.dialogue page = some p) :
    ∃ p', (d.oui page).dialogue page = some p' ∧ p'.restoId = p.restoId := by
  rw [Appareil.dialogue, Option.filter_eq_some_iff] at shown
  refine ⟨p.buildListView d.objets [], ?_, p.buildListView_restoId d.objets []⟩
  have again : d.dialogue page = some p := by
    rw [Appareil.dialogue, Option.filter_eq_some_iff]
    exact shown
  rw [Appareil.oui, again, Appareil.dialogue, Option.filter_eq_some_iff]
  simp only [List.getElem?_modify, shown.1]
  simpa using shown.2

theorem lignes_oui (d : Appareil) (p : PageCommande) (shown : d.dialogue page = some p) :
    (d.oui page).lignes = [] := by
  simp only [Appareil.oui, shown, Appareil.lignes, List.map_nil]

theorem taper_store (s : Poste) (tap : Tap) (p : PageCommande)
    (shown : s.appareil.dialogue page = some p) :
    (taper tirage user page s tap).store = ecrire tirage s.store tap.accepte
      (confirmer user p.restoId tap.horloge s.appareil.lignes) := by
  simp only [taper, ajouts, shown]

theorem gardees_taper (fromTimestamp : ℤ → ℤ) (now : ℤ) (s₀ s : Poste) (tap : Tap)
    (p : PageCommande) (shown : s.appareil.dialogue page = some p)
    (gardees : Gardees user fromTimestamp now p.restoId s₀ s) :
    Gardees user fromTimestamp now p.restoId s₀ (taper tirage user page s tap) ↔
      SansRejet s tap := by
  have emptied : restantes (taper tirage user page s tap).appareil = 0 := by
    simp [restantes, taper, step, lignes_oui page s.appareil p shown]
  have balance : Gardees user fromTimestamp now p.restoId s₀ (taper tirage user page s tap) ↔
      (((acceptees tap.accepte s.appareil.lignes).map (fun ligne => some ligne.info) : List _) :
        Multiset _) = restantes s.appareil := by
    rw [Gardees, emptied, ← gardees, taper_store tirage user page s tap p shown, enCours_ecrire,
      add_zero, add_comm, add_right_inj]
  rw [balance]
  constructor
  · intro same
    apply toutes_of_length
    simpa [restantes] using congrArg Multiset.card same
  · intro all
    rw [acceptees_toutes _ _ all]
    rfl

def Ouvert (restoId : String) (s : Poste) : Prop :=
  ∃ p, s.appareil.dialogue page = some p ∧ p.restoId = restoId

theorem ouvert_taper (restoId : String) (s : Poste) (tap : Tap) (ouvert : Ouvert page restoId s) :
    Ouvert page restoId (taper tirage user page s tap) := by
  obtain ⟨p, shown, same⟩ := ouvert
  obtain ⟨p', shown', same'⟩ := dialogue_oui page s.appareil p shown
  exact ⟨p', shown', same'.trans same⟩

theorem gardees_iff_sans_rejet (fromTimestamp : ℤ → ℤ) (now : ℤ) (restoId : String) (s₀ : Poste)
    (ouvert : Ouvert page restoId s₀) (taps : List Tap) :
    (∀ front back, taps = front ++ back → Gardees user fromTimestamp now restoId s₀
      (Machine.run (taper tirage user page) s₀ front)) ↔
      Machine.Along (taper tirage user page) SansRejet s₀ taps := by
  rw [← Machine.always_iff_prefixes]
  apply Machine.always_iff_along (taper tirage user page) (Ouvert page restoId)
  · exact fun s tap held => ouvert_taper tirage user page restoId s tap held
  · intro s tap held gardees
    obtain ⟨p, shown, same⟩ := held
    rw [← same] at gardees ⊢
    exact gardees_taper tirage user page fromTimestamp now s₀ s tap p shown gardees
  · exact ouvert
  · exact rfl

/-- The lines of a cart survive a series of confirmations, whatever their number, and a last
confirmation without rejection leaves exactly one order for each, if and only if no call for a
line of the cart is rejected. -/
theorem nothing_lost_iff_none_rejected (fromTimestamp : ℤ → ℤ) (now : ℤ) (s₀ : Poste)
    (p : PageCommande) (shown : s₀.appareil.dialogue page = some p) (taps : List Tap) :
    ((∀ front back, taps = front ++ back → Gardees user fromTimestamp now p.restoId s₀
        (Machine.run (taper tirage user page) s₀ front)) ∧
      ∀ front tap, taps = front ++ [tap] →
        SansRejet (Machine.run (taper tirage user page) s₀ front) tap →
        enCours fromTimestamp now (Machine.run (taper tirage user page) s₀ taps).store
            user.persoId p.restoId =
          enCours fromTimestamp now s₀.store user.persoId p.restoId + restantes s₀.appareil) ↔
      Machine.Along (taper tirage user page) SansRejet s₀ taps := by
  have ouvert : Ouvert page p.restoId s₀ := ⟨p, shown, rfl⟩
  have law := gardees_iff_sans_rejet tirage user page fromTimestamp now p.restoId s₀ ouvert taps
  rw [law, and_iff_left_iff_imp]
  intro along front tap split _
  have kept := law.mpr along taps [] (by simp)
  obtain ⟨p', shown', _⟩ := Machine.run_preserves (taper tirage user page) (Ouvert page p.restoId)
    (fun s tap held => ouvert_taper tirage user page p.restoId s tap held) s₀ front ouvert
  have emptied : restantes (Machine.run (taper tirage user page) s₀ taps).appareil = 0 := by
    rw [split, Machine.run_snoc]
    simp [restantes, taper, step, lignes_oui page _ p' shown']
  rw [Gardees, emptied, add_zero] at kept
  exact kept

end Taps

def posteRiz : Poste := ⟨videDeCommandes, Machine.run step lancement (choisirRiz "R")⟩

def pageRiz : PageCommande := ⟨"R", [⟨0, 1⟩], [⟨0, 1⟩], true, 1⟩

theorem posteRiz_dialogue : posteRiz.appareil.dialogue 0 = some pageRiz := by
  rfl

theorem accepted_order_kept :
    enCours id 0 (Machine.run (taper Database.tirageLong ada 0) posteRiz
        [⟨fun _ => 0, fun _ => true⟩]).store "u" "R" =
      enCours id 0 posteRiz.store "u" "R" + restantes posteRiz.appareil := by
  have along : Machine.Along (taper Database.tirageLong ada 0) SansRejet posteRiz
      [⟨fun _ => 0, fun _ => true⟩] := ⟨fun _ _ => rfl, trivial⟩
  exact ((nothing_lost_iff_none_rejected Database.tirageLong ada 0 id 0 posteRiz pageRiz
    posteRiz_dialogue _).mpr along).2 [] _ rfl (fun _ _ => rfl)

/-- The only call is rejected: the line is gone from the cart, nothing is stored, and a second
confirmation, which is not refused anything, does not bring it back. -/
theorem rejected_add_loses_line :
    posteRiz.appareil.lignes = [⟨"Riz", some "plats", 1000, 1⟩] ∧
      (taper Database.tirageLong ada 0 posteRiz ⟨fun _ => 0, fun _ => false⟩).appareil.lignes = [] ∧
      enCours id 0 (Machine.run (taper Database.tirageLong ada 0) posteRiz
        [⟨fun _ => 0, fun _ => false⟩, ⟨fun _ => 0, fun _ => true⟩]).store "u" "R" = 0 ∧
      ¬ Gardees ada id 0 "R" posteRiz
        (taper Database.tirageLong ada 0 posteRiz ⟨fun _ => 0, fun _ => false⟩) := by
  refine ⟨by decide +kernel, by decide +kernel, by decide +kernel, ?_⟩
  unfold Gardees
  decide +kernel

end EWallet.Commandes
