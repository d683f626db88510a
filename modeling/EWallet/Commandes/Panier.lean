import EWallet.Commandes.Appareil
import Mathlib.Data.List.Nodup

namespace EWallet.Commandes

def MemePlat (x y : CommandeNewVersion) : Prop :=
  x.nomMenu = y.nomMenu ∧ x.categorie = y.categorie

instance (x y : CommandeNewVersion) : Decidable (MemePlat x y) :=
  inferInstanceAs (Decidable (_ ∧ _))

theorem MemePlat.symm {x y : CommandeNewVersion} (same : MemePlat x y) : MemePlat y x :=
  ⟨same.1.symm, same.2.symm⟩

theorem MemePlat.trans {x y z : CommandeNewVersion} (left : MemePlat x y) (right : MemePlat y z) :
    MemePlat x z :=
  ⟨left.1.trans right.1, left.2.trans right.2⟩

@[simp] theorem changer_nomMenu (x : CommandeNewVersion) (f : ℤ → ℤ) :
    (x.changer f).nomMenu = x.nomMenu := rfl

@[simp] theorem changer_categorie (x : CommandeNewVersion) (f : ℤ → ℤ) :
    (x.changer f).categorie = x.categorie := rfl

@[simp] theorem changer_prix (x : CommandeNewVersion) (f : ℤ → ℤ) :
    (x.changer f).prix = x.prix := rfl

@[simp] theorem changer_quantite (x : CommandeNewVersion) (f : ℤ → ℤ) :
    (x.changer f).quantite = f x.quantite := rfl

namespace Appareil

theorem contain_none (d : Appareil) (x : CommandeNewVersion) :
    d.contain x = none ↔ ∀ r ∈ d.listeCommande, ¬ MemePlat (d.objets r) x := by
  simp [contain, MemePlat, List.find?_eq_none]

theorem rangee_menu (d : Appareil) (page row : ℕ) (menu : CategoryMenu) (plat : MenuInfo)
    (prix : ℤ) (shown : d.rangee page row = some (menu, plat, prix)) :
    d.menus[page]? = some menu ∧ menu.plats[row]? = some (some plat) ∧
      plat.prix = .int prix := by
  simp only [rangee, Option.bind_eq_bind, Option.bind_eq_some_iff, Option.pure_def,
    Option.some.injEq, Prod.mk.injEq] at shown
  obtain ⟨m, opened, plat?, listed, p, here, n, entier, rfl, rfl, rfl⟩ := shown
  subst here
  refine ⟨opened, listed, ?_⟩
  cases value : p.prix with
  | int k =>
      simp only [MenuInfo.prixEntier, value, Option.some.injEq] at entier
      rw [entier]
  | double x =>
      simp only [MenuInfo.prixEntier, value] at entier
      cases entier

end Appareil

/-- All that one operation can do to the cart and to the lines themselves. -/
inductive Effet (d d' : Appareil) : Prop
  | intact (liste : d'.listeCommande = d.listeCommande) (objets : d'.objets = d.objets)
  | nouvelle (menu : CategoryMenu) (plat : MenuInfo) (prix : ℤ) (row : ℕ) (opened : menu ∈ d.menus)
      (absent : d.contain (Appareil.demande menu plat prix row) = none)
      (liste : d'.listeCommande = d.listeCommande ++ [d.nouveau])
      (objets : d'.objets =
        Function.update d.objets d.nouveau (Appareil.demande menu plat prix row))
  | compte (r : ℕ) (f : ℤ → ℤ)
      (positive : 1 ≤ (d.objets r).quantite → 1 ≤ f (d.objets r).quantite)
      (liste : d'.listeCommande = d.listeCommande)
      (objets : d'.objets = Function.update d.objets r ((d.objets r).changer f))
  | retrait (index : ℕ) (liste : d'.listeCommande = d.listeCommande.eraseIdx index)
      (objets : d'.objets = d.objets)
  | vide (liste : d'.listeCommande = []) (objets : d'.objets = d.objets)

theorem effet_supprimer (d : Appareil) (page index : ℕ) : Effet d (d.supprimer page index) :=
  .retrait index (d.supprimer_liste page index) (d.supprimer_garde page index).1

theorem effet_menuPlus (d : Appareil) (page row : ℕ) : Effet d (d.menuPlus page row) := by
  cases shown : d.rangee page row with
  | none =>
      rw [d.menuPlus_rien page row shown]
      exact .intact rfl rfl
  | some rangee =>
      obtain ⟨menu, plat, prix⟩ := rangee
      have opened := List.mem_of_getElem? (d.rangee_menu page row menu plat prix shown).1
      cases found : d.contain (Appareil.demande menu plat prix row) with
      | none =>
          obtain ⟨liste, objets⟩ := d.menuPlus_nouvelle page row menu plat prix shown found
          exact .nouvelle menu plat prix row opened found liste objets
      | some r =>
          obtain ⟨liste, objets⟩ := d.menuPlus_accrue page row menu plat prix shown r found
          exact .compte r (· + 1) (by omega) liste objets

theorem effet_panierMoins (d : Appareil) (page k : ℕ) : Effet d (d.panierMoins page k) := by
  unfold Appareil.panierMoins
  split
  · exact .intact rfl rfl
  · split
    · rename_i widget shown several
      exact .compte widget.item (· - 1) (by omega) rfl rfl
    · exact effet_supprimer d page _

theorem effet_step (d : Appareil) (act : Action) : Effet d (step d act) := by
  cases act with
  | menuPlus page row => exact effet_menuPlus d page row
  | menuMoins page row =>
      refine .intact (d.menuMoins_liste page row) ?_
      simp only [step, Appareil.menuMoins]
      split
      · rfl
      · rfl
  | panierPlus page k =>
      simp only [step, Appareil.panierPlus]
      split
      · exact .intact rfl rfl
      · rename_i widget shown
        exact .compte widget.item (· + 1) (by omega) rfl rfl
  | panierMoins page k => exact effet_panierMoins d page k
  | oui page horloge =>
      simp only [step, Appareil.oui]
      split
      · exact .intact rfl rfl
      · exact .vide rfl rfl
  | ouvrirMenu restoId rubrique => exact .intact rfl rfl
  | menuRecu page plats => exact .intact rfl rfl
  | fermerMenu page => exact .intact rfl rfl
  | ouvrirCommande restoId => exact .intact rfl rfl
  | frame page => exact .intact rfl rfl
  | fermerCommande page => exact .intact rfl rfl
  | valider page => exact .intact rfl rfl

/-- No dish has two lines, every line counts at least one unit, no row counts below zero. -/
structure Ordonne (d : Appareil) : Prop where
  nodup : d.listeCommande.Nodup
  uniques : ∀ r ∈ d.listeCommande, ∀ r' ∈ d.listeCommande,
    MemePlat (d.objets r) (d.objets r') → r = r'
  quantites : ∀ r ∈ d.listeCommande, 1 ≤ (d.objets r).quantite
  compteurs : ∀ menu ∈ d.menus, ∀ row, 0 ≤ menu.compteurs row

theorem ordonne_lancement : Ordonne lancement where
  nodup := List.nodup_nil
  uniques _ member := absurd member List.not_mem_nil
  quantites _ member := absurd member List.not_mem_nil
  compteurs _ member := absurd member List.not_mem_nil

theorem forall_modify {α : Type*} (P : α → Prop) (f : α → α) (keep : ∀ x, P x → P (f x))
    (l : List α) (i : ℕ) (all : ∀ x ∈ l, P x) : ∀ x ∈ l.modify i f, P x := by
  intro x member
  obtain ⟨j, at_⟩ := List.getElem?_of_mem member
  rw [List.getElem?_modify] at at_
  cases old : l[j]? with
  | none =>
      rw [old] at at_
      cases at_
  | some y =>
      have before := all y (List.mem_of_getElem? old)
      simp only [old, Option.map_eq_map, Option.map_some, Option.some.injEq] at at_
      split at at_
      · rw [← at_]
        exact keep y before
      · rw [← at_]
        exact before

theorem compteurs_compter (d : Appareil) (page row : ℕ) (f : ℤ → ℤ)
    (positive : ∀ q, 0 ≤ q → 0 ≤ f q) (all : ∀ menu ∈ d.menus, ∀ i, 0 ≤ menu.compteurs i) :
    ∀ menu ∈ (d.compter page row f).menus, ∀ i, 0 ≤ menu.compteurs i := by
  apply forall_modify (fun menu : CategoryMenu => ∀ i, 0 ≤ menu.compteurs i) _ _ _ _ all
  intro menu counts i
  simp only [Function.update_apply]
  split
  · exact positive _ (counts row)
  · exact counts i

theorem compteurs_step (d : Appareil) (act : Action)
    (all : ∀ menu ∈ d.menus, ∀ i, 0 ≤ menu.compteurs i) :
    ∀ menu ∈ (step d act).menus, ∀ i, 0 ≤ menu.compteurs i := by
  cases act with
  | ouvrirMenu restoId rubrique =>
      intro menu member i
      rcases List.mem_append.mp member with old | new
      · exact all menu old i
      · rw [List.mem_singleton.mp new]
  | menuRecu page plats =>
      apply forall_modify (fun menu : CategoryMenu => ∀ i, 0 ≤ menu.compteurs i) _ _ _ _ all
      intro menu counts i
      dsimp only
      split
      · exact counts i
      · exact Int.le_refl 0
  | fermerMenu page => exact fun menu member => all menu (List.mem_of_mem_eraseIdx member)
  | menuPlus page row =>
      cases shown : d.rangee page row with
      | none =>
          rw [step, d.menuPlus_rien page row shown]
          exact all
      | some rangee =>
          obtain ⟨menu, plat, prix⟩ := rangee
          rw [step, d.menuPlus_menus page row menu plat prix shown]
          exact compteurs_compter d page row _ (by omega) all
  | menuMoins page row =>
      simp only [step, Appareil.menuMoins]
      split
      · exact all
      · apply compteurs_compter d page row _ _ all
        intro q low
        split <;> omega
  | panierPlus page k =>
      simp only [step, Appareil.panierPlus]
      split
      · exact all
      · exact all
  | panierMoins page k =>
      simp only [step, Appareil.panierMoins, Appareil.supprimer]
      repeat' split
      all_goals exact all
  | oui page horloge =>
      simp only [step, Appareil.oui]
      split
      · exact all
      · exact all
  | ouvrirCommande restoId => exact all
  | frame page => exact all
  | fermerCommande page => exact all
  | valider page => exact all

theorem ordonne_of_sublist (d d' : Appareil) (ordonne : Ordonne d)
    (compteurs : ∀ menu ∈ d'.menus, ∀ row, 0 ≤ menu.compteurs row)
    (liste : d'.listeCommande.Sublist d.listeCommande) (objets : d'.objets = d.objets) :
    Ordonne d' where
  nodup := ordonne.nodup.sublist liste
  uniques r member r' member' same := by
    rw [objets] at same
    exact ordonne.uniques r (liste.subset member) r' (liste.subset member') same
  quantites r member := by
    rw [objets]
    exact ordonne.quantites r (liste.subset member)
  compteurs := compteurs

theorem ordonne_nouvelle (d d' : Appareil) (ordonne : Ordonne d)
    (compteurs : ∀ menu ∈ d'.menus, ∀ row, 0 ≤ menu.compteurs row) (x : CommandeNewVersion)
    (absent : ∀ r ∈ d.listeCommande, ¬ MemePlat (d.objets r) x) (counts : 1 ≤ x.quantite)
    (liste : d'.listeCommande = d.listeCommande ++ [d.nouveau])
    (objets : d'.objets = Function.update d.objets d.nouveau x) : Ordonne d' := by
  have old : ∀ r ∈ d.listeCommande, d'.objets r = d.objets r := by
    intro r member
    rw [objets]
    exact d.objets_nouveau x r member
  have new : d'.objets d.nouveau = x := by
    rw [objets, Function.update_self]
  refine ⟨?_, ?_, ?_, compteurs⟩
  · rw [liste, ← List.concat_eq_append]
    exact List.Nodup.concat d.nouveau_not_mem ordonne.nodup
  · intro r member r' member' same
    rw [liste, List.mem_append, List.mem_singleton] at member member'
    rcases member with left | rfl
    · rw [old r left] at same
      rcases member' with right | rfl
      · rw [old r' right] at same
        exact ordonne.uniques r left r' right same
      · rw [new] at same
        exact absurd same (absent r left)
    · rw [new] at same
      rcases member' with right | rfl
      · rw [old r' right] at same
        exact absurd same.symm (absent r' right)
      · rfl
  · intro r member
    rw [liste, List.mem_append, List.mem_singleton] at member
    rcases member with left | rfl
    · rw [old r left]
      exact ordonne.quantites r left
    · rw [new]
      exact counts

theorem ordonne_compte (d d' : Appareil) (ordonne : Ordonne d)
    (compteurs : ∀ menu ∈ d'.menus, ∀ row, 0 ≤ menu.compteurs row) (r : ℕ) (f : ℤ → ℤ)
    (positive : 1 ≤ (d.objets r).quantite → 1 ≤ f (d.objets r).quantite)
    (liste : d'.listeCommande = d.listeCommande)
    (objets : d'.objets = Function.update d.objets r ((d.objets r).changer f)) : Ordonne d' := by
  have key : ∀ other, (d'.objets other).nomMenu = (d.objets other).nomMenu ∧
      (d'.objets other).categorie = (d.objets other).categorie := by
    intro other
    rw [objets]
    by_cases same : other = r
    · subst same
      simp
    · simp [same]
  refine ⟨?_, ?_, ?_, compteurs⟩
  · rw [liste]
    exact ordonne.nodup
  · intro left hl right hr same
    rw [liste] at hl hr
    rw [MemePlat, (key left).1, (key left).2, (key right).1, (key right).2] at same
    exact ordonne.uniques left hl right hr same
  · intro other member
    rw [liste] at member
    have before := ordonne.quantites other member
    rw [objets]
    by_cases same : other = r
    · subst same
      simpa using positive before
    · rw [Function.update_of_ne same]
      exact before

theorem ordonne_effet (d d' : Appareil) (effet : Effet d d') (ordonne : Ordonne d)
    (compteurs : ∀ menu ∈ d'.menus, ∀ row, 0 ≤ menu.compteurs row) : Ordonne d' := by
  cases effet with
  | intact liste objets =>
      exact ordonne_of_sublist d d' ordonne compteurs (by rw [liste]) objets
  | nouvelle menu plat prix row opened absent liste objets =>
      have count := ordonne.compteurs menu opened row
      exact ordonne_nouvelle d d' ordonne compteurs _ ((d.contain_none _).mp absent)
        (by simp only [Appareil.demande]; omega) liste objets
  | compte r f positive liste objets =>
      exact ordonne_compte d d' ordonne compteurs r f positive liste objets
  | retrait index liste objets =>
      apply ordonne_of_sublist d d' ordonne compteurs _ objets
      rw [liste]
      exact List.eraseIdx_sublist _ _
  | vide liste objets =>
      apply ordonne_of_sublist d d' ordonne compteurs _ objets
      rw [liste]
      exact List.nil_sublist _

theorem ordonne_step (d : Appareil) (act : Action) (ordonne : Ordonne d) : Ordonne (step d act) :=
  ordonne_effet d _ (effet_step d act) ordonne (compteurs_step d act ordonne.compteurs)

theorem ordonne_run (actions : List Action) : Ordonne (Machine.run step lancement actions) :=
  Machine.run_preserves step Ordonne ordonne_step lancement actions ordonne_lancement

/-- An action, or a removal notification with any index. -/
inductive Operation where
  | agir (act : Action)
  | notification (page index : ℕ)

def operer (d : Appareil) : Operation → Appareil
  | .agir act => step d act
  | .notification page index => d.supprimer page index

theorem ordonne_operer (d : Appareil) (operation : Operation) (ordonne : Ordonne d) :
    Ordonne (operer d operation) := by
  cases operation with
  | agir act => exact ordonne_step d act ordonne
  | notification page index =>
      apply ordonne_effet d _ (effet_supprimer d page index) ordonne
      rw [(d.supprimer_garde page index).2]
      exact ordonne.compteurs

theorem ordonne_lignes (d : Appareil) (ordonne : Ordonne d) :
    d.lignes.Pairwise (fun x y => ¬ MemePlat x y) := by
  rw [Appareil.lignes, List.pairwise_map]
  apply ordonne.nodup.imp_of_mem
  intro r r' member member' different same
  exact different (ordonne.uniques r member r' member' same)

/-- In every reachable state no dish has two lines, every line has at least one unit and no
counter is negative; a removal out of range changes nothing. -/
theorem cart_well_formed (operations : List Operation) :
    let d := Machine.run operer lancement operations
    d.lignes.Pairwise (fun x y => ¬ MemePlat x y) ∧ (∀ x ∈ d.lignes, 1 ≤ x.quantite) ∧
      (∀ menu ∈ d.menus, ∀ row, 0 ≤ menu.compteurs row) ∧
      ∀ page index, d.listeCommande.length ≤ index → d.supprimer page index = d := by
  intro d
  have ordonne : Ordonne d :=
    Machine.run_preserves operer Ordonne ordonne_operer lancement operations ordonne_lancement
  refine ⟨ordonne_lignes d ordonne, ?_, ordonne.compteurs, ?_⟩
  · intro x member
    obtain ⟨r, inside, equal⟩ := List.mem_map.mp member
    rw [← equal]
    exact ordonne.quantites r inside
  · intro page index outside
    rw [Appareil.supprimer, if_neg (Nat.not_lt.mpr outside)]

end EWallet.Commandes
