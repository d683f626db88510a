import EWallet.Commandes.Confirmation
import EWallet.Commandes.Compteurs
import Mathlib.Algebra.BigOperators.Group.List.Basic
import Mathlib.Tactic.Ring

namespace EWallet.Commandes

open Firestore

abbrev Poids := String → Option String → ℤ → ℤ

def CommandeNewVersion.poids (w : Poids) (x : CommandeNewVersion) : ℤ :=
  w x.nomMenu x.categorie x.prix

def CommandeNewVersion.valeur (w : Poids) (x : CommandeNewVersion) : ℤ := x.poids w * x.quantite

def Appareil.valeur (w : Poids) (d : Appareil) : ℤ :=
  (d.listeCommande.map (fun r => (d.objets r).valeur w)).sum

def Ajout.valeur (w : Poids) (ajout : Ajout) : ℤ :=
  match menuInfoforCommande ajout.data with
  | some ⟨some nom, categorie, some (.int prix), some quantite⟩ => w nom categorie prix * quantite
  | _ => 0

/-- What an action brings into the cart: a `+` on a menu, the counter of its row and one for a
dish without a line; a `+` on the cart page, one, as long as the line it shows is in the cart. -/
def entree (w : Poids) (d : Appareil) : Action → ℤ
  | .menuPlus page row =>
      match d.rangee page row with
      | none => 0
      | some (menu, plat, prix) =>
          match d.contain (Appareil.demande menu plat prix row) with
          | none => (Appareil.demande menu plat prix row).valeur w
          | some r => (d.objets r).poids w
  | .panierPlus page k =>
      match d.affiche page k with
      | none => 0
      | some widget => if widget.item ∈ d.listeCommande then (d.objets widget.item).poids w else 0
  | _ => 0

/-- What an action takes back from the cart: a `-` on a line of several units, one, as long as it
is in the cart; any other, the line that stands at the index of the widget. -/
def sortie (w : Poids) (d : Appareil) : Action → ℤ
  | .panierMoins page k =>
      match d.affiche page k with
      | none => 0
      | some widget =>
          if (d.objets widget.item).quantite > 1 then
            if widget.item ∈ d.listeCommande then (d.objets widget.item).poids w else 0
          else
            match d.listeCommande[widget.index]? with
            | none => 0
            | some r => (d.objets r).valeur w
  | _ => 0

structure Bilan where
  appareil : Appareil
  entrees : ℤ
  sorties : ℤ
  envoyes : List Ajout

def tenir (user : Utilisateur) (w : Poids) (s : Bilan) (act : Action) : Bilan where
  appareil := step s.appareil act
  entrees := s.entrees + entree w s.appareil act
  sorties := s.sorties + sortie w s.appareil act
  envoyes := s.envoyes ++ ajouts user s.appareil act

def bilanVide : Bilan := ⟨lancement, 0, 0, []⟩

theorem somme_update (l : List ℕ) (nodup : l.Nodup) (g : ℕ → ℤ) (r : ℕ) (v : ℤ) :
    (l.map (Function.update g r v)).sum = (l.map g).sum + if r ∈ l then v - g r else 0 := by
  induction l with
  | nil => simp
  | cons first rest ih =>
      obtain ⟨absent, nodup⟩ := List.nodup_cons.mp nodup
      rw [List.map_cons, List.map_cons, List.sum_cons, List.sum_cons, ih nodup]
      by_cases same : first = r
      · subst same
        rw [Function.update_self, if_neg absent, if_pos List.mem_cons_self]
        omega
      · rw [Function.update_of_ne same]
        simp only [List.mem_cons, Ne.symm same, false_or]
        omega

theorem somme_eraseIdx (l : List ℤ) (i : ℕ) : l[i]?.getD 0 + (l.eraseIdx i).sum = l.sum := by
  by_cases inside : i < l.length
  · rw [List.getElem?_eq_getElem inside, Option.getD_some]
    exact List.CommMonoid.add_sum_eraseIdx inside
  · rw [List.eraseIdx_of_length_le (by omega), List.getElem?_eq_none (by omega)]
    simp

namespace Appareil

theorem valeur_eq (w : Poids) (d d' : Appareil) (liste : d'.listeCommande = d.listeCommande)
    (objets : d'.objets = d.objets) : d'.valeur w = d.valeur w := by
  rw [valeur, valeur, liste, objets]

theorem valeur_compte (w : Poids) (d d' : Appareil) (ordonne : Ordonne d) (r : ℕ) (f : ℤ → ℤ)
    (liste : d'.listeCommande = d.listeCommande)
    (objets : d'.objets = Function.update d.objets r ((d.objets r).changer f)) :
    d'.valeur w = d.valeur w + if r ∈ d.listeCommande then
      (d.objets r).poids w * (f (d.objets r).quantite - (d.objets r).quantite) else 0 := by
  have moved : (fun r' => (d'.objets r').valeur w) = Function.update
      (fun r' => (d.objets r').valeur w) r (((d.objets r).changer f).valeur w) := by
    funext r'
    rw [objets]
    by_cases same : r' = r
    · subst same
      simp
    · simp [same]
  rw [valeur, moved, liste, somme_update _ ordonne.nodup]
  congr 1
  split
  · simp only [CommandeNewVersion.valeur, CommandeNewVersion.poids, changer_nomMenu,
      changer_categorie, changer_prix, changer_quantite]
    rw [Int.mul_sub]
  · rfl

theorem valeur_nouvelle (w : Poids) (d d' : Appareil) (x : CommandeNewVersion)
    (liste : d'.listeCommande = d.listeCommande ++ [d.nouveau])
    (objets : d'.objets = Function.update d.objets d.nouveau x) :
    d'.valeur w = d.valeur w + x.valeur w := by
  have old : d.listeCommande.map (fun r => (d'.objets r).valeur w) =
      d.listeCommande.map (fun r => (d.objets r).valeur w) := by
    apply List.map_congr_left
    intro r member
    rw [objets, d.objets_nouveau x r member]
  rw [valeur, liste, List.map_append, List.sum_append, old]
  simp [objets, valeur]

theorem valeur_supprimer (w : Poids) (d : Appareil) (page index : ℕ) :
    ((d.listeCommande[index]?).map (fun r => (d.objets r).valeur w)).getD 0 +
      (d.supprimer page index).valeur w = d.valeur w := by
  rw [valeur, valeur, d.supprimer_liste page index, (d.supprimer_garde page index).1,
    ← List.eraseIdx_map, ← List.getElem?_map]
  exact somme_eraseIdx _ index

end Appareil

theorem valeur_confirmer (w : Poids) (user : Utilisateur) (restoId : String) (horloge : ℕ → ℤ)
    (lignes : List CommandeNewVersion) :
    ((confirmer user restoId horloge lignes).map (Ajout.valeur w)).sum =
      (lignes.map (fun x => x.valeur w)).sum := by
  induction lignes generalizing horloge with
  | nil => rfl
  | cons ligne rest ih =>
      rw [confirmer_cons, List.map_cons, List.map_cons, List.sum_cons, List.sum_cons, ih]
      congr 1
      simp only [Ajout.valeur, menuInfoforCommande_document, CommandeNewVersion.info,
        CommandeNewVersion.valeur, CommandeNewVersion.poids]

theorem valeur_menuPlus (w : Poids) (d : Appareil) (ordonne : Ordonne d) (page row : ℕ) :
    (d.menuPlus page row).valeur w = d.valeur w + entree w d (.menuPlus page row) := by
  cases shown : d.rangee page row with
  | none => simp only [entree, shown, d.menuPlus_rien page row shown, add_zero]
  | some rangee =>
      obtain ⟨menu, plat, prix⟩ := rangee
      simp only [entree, shown]
      cases found : d.contain (Appareil.demande menu plat prix row) with
      | none =>
          obtain ⟨liste, objets⟩ := d.menuPlus_nouvelle page row menu plat prix shown found
          simp only [Appareil.valeur_nouvelle w d _ _ liste objets]
      | some r =>
          obtain ⟨liste, objets⟩ := d.menuPlus_accrue page row menu plat prix shown r found
          have inside := (d.contain_mem _ r found).1
          simp only [Appareil.valeur_compte w d _ ordonne r (· + 1) liste objets, if_pos inside]
          ring

theorem valeur_panierMoins (w : Poids) (d : Appareil) (ordonne : Ordonne d) (page k : ℕ) :
    (d.panierMoins page k).valeur w + sortie w d (.panierMoins page k) = d.valeur w := by
  simp only [sortie, Appareil.panierMoins]
  cases shown : d.affiche page k with
  | none => simp
  | some widget =>
      by_cases several : (d.objets widget.item).quantite > 1
      · simp only [if_pos several, Appareil.valeur_compte w d
          (d.modifier widget.item (· - 1)) ordonne widget.item (· - 1) rfl rfl]
        split <;> ring
      · simp only [if_neg several]
        have removed := d.valeur_supprimer w page widget.index
        cases line : d.listeCommande[widget.index]? with
        | none =>
            rw [line] at removed
            simpa using removed
        | some r =>
            rw [line, Option.map_some, Option.getD_some, add_comm] at removed
            exact removed

/-- The step rule: whatever an action does, what it weighs in the cart comes from a tap or goes
back with one, or leaves in an order. -/
theorem valeur_step (w : Poids) (user : Utilisateur) (d : Appareil) (ordonne : Ordonne d)
    (act : Action) :
    (step d act).valeur w + sortie w d act + ((ajouts user d act).map (Ajout.valeur w)).sum =
      d.valeur w + entree w d act := by
  have quiet : (step d act).listeCommande = d.listeCommande → (step d act).objets = d.objets →
      (step d act).valeur w + 0 + 0 = d.valeur w + 0 := by
    intro liste objets
    rw [Appareil.valeur_eq w d _ liste objets]
    omega
  cases act with
  | menuPlus page row =>
      calc (d.menuPlus page row).valeur w + 0 + 0
          = (d.menuPlus page row).valeur w := by rw [add_zero, add_zero]
        _ = d.valeur w + entree w d (.menuPlus page row) := valeur_menuPlus w d ordonne page row
  | panierPlus page k =>
      simp only [sortie, ajouts, entree, step, Appareil.panierPlus, List.map_nil, List.sum_nil]
      cases shown : d.affiche page k with
      | none => simp
      | some widget =>
          simp only [Appareil.valeur_compte w d (d.modifier widget.item (· + 1)) ordonne
            widget.item (· + 1) rfl rfl]
          split <;> ring
  | panierMoins page k =>
      calc (d.panierMoins page k).valeur w + sortie w d (.panierMoins page k) + 0
          = (d.panierMoins page k).valeur w + sortie w d (.panierMoins page k) := add_zero _
        _ = d.valeur w := valeur_panierMoins w d ordonne page k
        _ = d.valeur w + 0 := (add_zero _).symm
  | oui page horloge =>
      simp only [sortie, ajouts, entree, step, Appareil.oui]
      cases shown : d.dialogue page with
      | none => simp
      | some p =>
          simp only [valeur_confirmer, Appareil.lignes, List.map_map]
          simp [Appareil.valeur, Function.comp_def]
  | menuMoins page row =>
      simp only [sortie, ajouts, entree, List.map_nil, List.sum_nil]
      apply quiet (d.menuMoins_liste page row)
      simp only [step, Appareil.menuMoins]
      split
      · rfl
      · rfl
  | ouvrirMenu restoId rubrique => exact quiet rfl rfl
  | menuRecu page plats => exact quiet rfl rfl
  | fermerMenu page => exact quiet rfl rfl
  | ouvrirCommande restoId => exact quiet rfl rfl
  | frame page => exact quiet rfl rfl
  | fermerCommande page => exact quiet rfl rfl
  | valider page => exact quiet rfl rfl

/-- Nothing is lost or made up between the taps and the orders: along every run, by any weight of
the units, what the taps have brought into the cart is what is in it, what was taken back from it
and what the orders sent count. -/
theorem taps_accounted_for (user : Utilisateur) (w : Poids) (actions : List Action) :
    (Machine.run (tenir user w) bilanVide actions).appareil.valeur w +
        (Machine.run (tenir user w) bilanVide actions).sorties +
        ((Machine.run (tenir user w) bilanVide actions).envoyes.map (Ajout.valeur w)).sum =
      (Machine.run (tenir user w) bilanVide actions).entrees := by
  have kept := Machine.run_preserves (tenir user w)
    (fun s => Ordonne s.appareil ∧ s.appareil.valeur w + s.sorties +
      (s.envoyes.map (Ajout.valeur w)).sum = s.entrees) ?_ bilanVide actions
    ⟨ordonne_lancement, rfl⟩
  · exact kept.2
  · rintro s act ⟨ordonne, total⟩
    refine ⟨ordonne_step s.appareil act ordonne, ?_⟩
    have stepped := valeur_step w user s.appareil ordonne act
    simp only [tenir, List.map_append, List.sum_append]
    omega

end EWallet.Commandes
