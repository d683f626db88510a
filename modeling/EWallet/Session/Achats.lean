import EWallet.Session.Images
import EWallet.Commandes.Bilan
import EWallet.Library.Shopping
import Mathlib.Algebra.Order.BigOperators.Group.List

namespace EWallet.Session

open Firestore Commandes Shopping

abbrev Plat := String × Option String

def cle (x : CommandeNewVersion) : Plat := (x.nomMenu, x.categorie)

def unite (plat : Plat) : Poids := fun nom categorie _ => if plat = (nom, categorie) then 1 else 0

def voeu (d : Appareil) : Action → Wish Plat
  | .menuPlus page row =>
      match d.rangee page row with
      | none => .nothing
      | some (menu, plat, prix) => .add (cle (Appareil.demande menu plat prix row))
  | .panierPlus page k =>
      match d.affiche page k with
      | none => .nothing
      | some widget => .add (cle (d.objets widget.item))
  | .panierMoins page k =>
      match d.affiche page k with
      | none => .nothing
      | some widget => .remove (cle (d.objets widget.item))
  | .oui page _ =>
      match d.dialogue page with
      | none => .nothing
      | some _ => .order
  | _ => .nothing

/-- A tap on the cart page is on a widget that stands for the line at its index. -/
def Visee (d : Appareil) : Action → Prop
  | .panierPlus page k => ∀ widget, d.affiche page k = some widget →
      d.listeCommande[widget.index]? = some widget.item
  | .panierMoins page k => ∀ widget, d.affiche page k = some widget →
      d.listeCommande[widget.index]? = some widget.item
  | _ => True

structure Represente (d : Appareil) (envoyes : List Ajout) (b : Basket Plat) : Prop where
  panier : Counts (fun plat => d.valeur (unite plat)) b.content
  envoyes : Counts (fun plat => (envoyes.map (Ajout.valeur (unite plat))).sum) b.ordered

theorem poids_unite (plat : Plat) (x : CommandeNewVersion) :
    x.poids (unite plat) = if plat = cle x then 1 else 0 := rfl

theorem valeur_unite_nonneg (d : Appareil) (ordonne : Ordonne d) (plat : Plat) :
    0 ≤ d.valeur (unite plat) := by
  apply List.sum_nonneg
  intro value member
  obtain ⟨r, inside, rfl⟩ := List.mem_map.mp member
  have units := ordonne.quantites r inside
  rw [CommandeNewVersion.valeur, poids_unite]
  split
  · omega
  · omega

theorem entree_menuPlus (d : Appareil) (page row : ℕ) (menu : CategoryMenu) (plat : MenuInfo)
    (prix : ℤ) (shown : d.rangee page row = some (menu, plat, prix))
    (accorde : Accorde d (.menuPlus page row)) (autre : Plat) :
    entree (unite autre) d (.menuPlus page row) =
      if autre = cle (Appareil.demande menu plat prix row) then 1 else 0 := by
  simp only [entree, shown]
  cases found : d.contain (Appareil.demande menu plat prix row) with
  | none =>
      have zero := accorde menu plat prix shown found
      have one : (Appareil.demande menu plat prix row).quantite = 1 := by
        rw [Appareil.demande, zero]
        rfl
      rw [CommandeNewVersion.valeur, one, mul_one, poids_unite]
  | some r =>
      obtain ⟨_, named, category⟩ := d.contain_mem _ r found
      have same : cle (d.objets r) = cle (Appareil.demande menu plat prix row) :=
        Prod.ext named category
      simp only [poids_unite, same]

theorem entree_panierPlus (d : Appareil) (page k : ℕ) (widget : MenuItemWidget)
    (shown : d.affiche page k = some widget)
    (line : d.listeCommande[widget.index]? = some widget.item) (autre : Plat) :
    entree (unite autre) d (.panierPlus page k) =
      if autre = cle (d.objets widget.item) then 1 else 0 := by
  simp only [entree, shown, if_pos (List.mem_of_getElem? line), poids_unite]

theorem sortie_panierMoins (d : Appareil) (ordonne : Ordonne d) (page k : ℕ)
    (widget : MenuItemWidget) (shown : d.affiche page k = some widget)
    (line : d.listeCommande[widget.index]? = some widget.item) (autre : Plat) :
    sortie (unite autre) d (.panierMoins page k) =
      if autre = cle (d.objets widget.item) then 1 else 0 := by
  have inside := List.mem_of_getElem? line
  have units := ordonne.quantites widget.item inside
  simp only [sortie, shown, line, if_pos inside]
  split
  · exact poids_unite autre _
  · have single : (d.objets widget.item).quantite = 1 := by omega
    rw [CommandeNewVersion.valeur, single, mul_one, poids_unite]

theorem valeur_oui (w : Poids) (d : Appareil) (page : ℕ) (horloge : ℕ → ℤ) (p : PageCommande)
    (shown : d.dialogue page = some p) : (step d (.oui page horloge)).valeur w = 0 := by
  simp only [step, Appareil.oui, shown]
  rfl

theorem represente_calme (user : Utilisateur) (d : Appareil) (ordonne : Ordonne d) (act : Action)
    (envoyes : List Ajout) (b : Basket Plat) (represente : Represente d envoyes b)
    (out_ : ∀ plat, sortie (unite plat) d act = 0) (in_ : ∀ plat, entree (unite plat) d act = 0)
    (none_ : ajouts user d act = []) :
    Represente (step d act) (envoyes ++ ajouts user d act) b where
  panier := by
    apply counts_congr _ _ _ represente.panier
    intro plat
    have balance := valeur_step (unite plat) user d ordonne act
    rw [out_, in_, none_] at balance
    simpa using balance
  envoyes := by
    rw [none_, List.append_nil]
    exact represente.envoyes

theorem represente_oui (user : Utilisateur) (d : Appareil) (ordonne : Ordonne d) (page : ℕ)
    (horloge : ℕ → ℤ) (p : PageCommande) (shown : d.dialogue page = some p)
    (envoyes : List Ajout) (b : Basket Plat) (represente : Represente d envoyes b) :
    Represente (step d (.oui page horloge)) (envoyes ++ ajouts user d (.oui page horloge))
      (grant b .order) where
  panier := counts_zero _ (fun plat => valeur_oui (unite plat) d page horloge p shown)
  envoyes := by
    apply counts_congr _ _ _ (counts_union _ _ _ _ represente.envoyes represente.panier)
    intro plat
    have sent : ((ajouts user d (.oui page horloge)).map (Ajout.valeur (unite plat))).sum =
        d.valeur (unite plat) := by
      have balance := valeur_step (unite plat) user d ordonne (.oui page horloge)
      rw [valeur_oui (unite plat) d page horloge p shown] at balance
      simpa [sortie, entree] using balance
    rw [List.map_append, List.sum_append, sent]

theorem represente_step (user : Utilisateur) (d : Appareil) (ordonne : Ordonne d) (act : Action)
    (accorde : Accorde d act) (visee : Visee d act) (envoyes : List Ajout) (b : Basket Plat)
    (represente : Represente d envoyes b) :
    Represente (step d act) (envoyes ++ ajouts user d act) (grant b (voeu d act)) := by
  have moved := fun plat => valeur_step (unite plat) user d ordonne act
  have nonneg := valeur_unite_nonneg _ (ordonne_step d act ordonne)
  have quiet := represente_calme user d ordonne act envoyes b represente
  have sent : ajouts user d act = [] →
      Counts (fun plat => ((envoyes ++ ajouts user d act).map (Ajout.valeur (unite plat))).sum)
        b.ordered := by
    intro none_
    rw [none_, List.append_nil]
    exact represente.envoyes
  cases act with
  | menuPlus page row =>
      cases shown : d.rangee page row with
      | none =>
          simp only [voeu, shown]
          exact quiet (fun _ => rfl) (fun _ => by simp only [entree, shown]) rfl
      | some rangee =>
          obtain ⟨menu, plat, prix⟩ := rangee
          simp only [voeu, shown]
          refine ⟨counts_add _ _ _ _ represente.panier fun autre => ?_, sent rfl⟩
          have balance := moved autre
          rw [entree_menuPlus d page row menu plat prix shown accorde autre] at balance
          simpa [sortie, ajouts] using balance
  | panierPlus page k =>
      cases shown : d.affiche page k with
      | none =>
          simp only [voeu, shown]
          exact quiet (fun _ => rfl) (fun _ => by simp only [entree, shown]) rfl
      | some widget =>
          simp only [voeu, shown]
          refine ⟨counts_add _ _ _ _ represente.panier fun autre => ?_, sent rfl⟩
          have balance := moved autre
          rw [entree_panierPlus d page k widget shown (visee widget shown) autre] at balance
          simpa [sortie, ajouts] using balance
  | panierMoins page k =>
      cases shown : d.affiche page k with
      | none =>
          simp only [voeu, shown]
          exact quiet (fun _ => by simp only [sortie, shown]) (fun _ => rfl) rfl
      | some widget =>
          simp only [voeu, shown]
          refine ⟨counts_remove _ _ _ _ represente.panier nonneg fun autre => ?_, sent rfl⟩
          have balance := moved autre
          rw [sortie_panierMoins d ordonne page k widget shown (visee widget shown) autre]
            at balance
          simpa [entree, ajouts] using balance
  | oui page horloge =>
      cases shown : d.dialogue page with
      | none =>
          simp only [voeu, shown]
          exact quiet (fun _ => rfl) (fun _ => rfl) (by simp only [ajouts, shown])
      | some p =>
          simp only [voeu, shown]
          exact represente_oui user d ordonne page horloge p shown envoyes b represente
  -- the other taps bring nothing into the cart and take nothing back
  | ouvrirMenu restoId rubrique => exact quiet (fun _ => rfl) (fun _ => rfl) rfl
  | menuRecu page plats => exact quiet (fun _ => rfl) (fun _ => rfl) rfl
  | fermerMenu page => exact quiet (fun _ => rfl) (fun _ => rfl) rfl
  | menuMoins page row => exact quiet (fun _ => rfl) (fun _ => rfl) rfl
  | ouvrirCommande restoId => exact quiet (fun _ => rfl) (fun _ => rfl) rfl
  | frame page => exact quiet (fun _ => rfl) (fun _ => rfl) rfl
  | fermerCommande page => exact quiet (fun _ => rfl) (fun _ => rfl) rfl
  | valider page => exact quiet (fun _ => rfl) (fun _ => rfl) rfl

structure Achats where
  navigation : Navigation
  envoyes : List Ajout

def acheter (user : Utilisateur) (x : Achats) (i : Interaction) : Achats where
  navigation := naviguer x.navigation i
  envoyes := x.envoyes ++ x.navigation.commandees user i

def sansAchat : Achats := ⟨accueil, []⟩

def souhait (x : Achats) (i : Interaction) : Wish Plat :=
  (x.navigation.action i).elim .nothing (voeu x.navigation.appareil)

/-- A `+` on a dish without a line finds the counter of its row at zero, and a tap on the cart page
meets a widget that stands for the line at its index. -/
def EnRegle (x : Achats) (i : Interaction) : Prop :=
  ∀ act ∈ x.navigation.action i, Accorde x.navigation.appareil act ∧ Visee x.navigation.appareil act

instance (d : Appareil) (act : Action) : Decidable (Accorde d act) :=
  match act with
  | .menuPlus page row =>
      decidable_of_iff (∀ x ∈ d.rangee page row,
          d.contain (Appareil.demande x.1 x.2.1 x.2.2 row) = none → x.1.compteurs row = 0)
        ⟨fun all menu plat prix shown => all (menu, plat, prix) shown,
          fun all x shown => all x.1 x.2.1 x.2.2 shown⟩
  | .ouvrirMenu _ _ | .menuRecu _ _ | .fermerMenu _ | .menuMoins _ _ | .ouvrirCommande _ | .frame _
  | .fermerCommande _ | .panierPlus _ _ | .panierMoins _ _ | .valider _ | .oui _ _ => isTrue trivial

instance (d : Appareil) (act : Action) : Decidable (Visee d act) :=
  match act with
  | .panierPlus page k | .panierMoins page k =>
      inferInstanceAs (Decidable (∀ widget ∈ d.affiche page k,
        d.listeCommande[widget.index]? = some widget.item))
  | .ouvrirMenu _ _ | .menuRecu _ _ | .fermerMenu _ | .menuPlus _ _ | .menuMoins _ _
  | .ouvrirCommande _ | .frame _ | .fermerCommande _ | .valider _ | .oui _ _ => isTrue trivial

instance (x : Achats) (i : Interaction) : Decidable (EnRegle x i) :=
  inferInstanceAs (Decidable (∀ act ∈ x.navigation.action i, _ ∧ _))

structure Fidele (x : Achats) (b : Basket Plat) : Prop where
  ordonne : Ordonne x.navigation.appareil
  represente : Represente x.navigation.appareil x.envoyes b

theorem fidele_acheter (user : Utilisateur) (x : Achats) (b : Basket Plat) (i : Interaction)
    (fidele : Fidele x b) (regle : EnRegle x i) :
    Fidele (acheter user x i) (grant b (souhait x i)) where
  ordonne := ordonne_naviguer x.navigation i fidele.ordonne
  represente := by
    cases acts : x.navigation.action i with
    | none =>
        simp only [acheter, naviguer, Navigation.commandees, souhait, acts, Option.elim_none,
          List.append_nil]
        exact fidele.represente
    | some act =>
        simp only [acheter, naviguer, Navigation.commandees, souhait, acts, Option.elim_some]
        obtain ⟨accorde, visee⟩ := regle act acts
        exact represente_step user x.navigation.appareil fidele.ordonne act accorde visee
          x.envoyes b
          fidele.represente

theorem fidele_sansAchat : Fidele sansAchat Shopping.empty where
  ordonne := ordonne_lancement
  represente := ⟨fun _ => rfl, fun _ => rfl⟩

/-- The application refines a basket: however one moves through it, as long as no `+` on a dish
without a line finds a counter above zero and each tap on the cart page meets the line it is on,
the cart holds what a basket would hold after the same wishes, and the orders sent are what it
would have ordered. -/
theorem cart_refines_basket (user : Utilisateur) (interactions : List Interaction)
    (regle : Machine.Along (acheter user) EnRegle sansAchat interactions) :
    let x := Machine.run (acheter user) sansAchat interactions
    let b := Machine.run grant Shopping.empty
      (Machine.trace (acheter user) souhait sansAchat interactions)
    ∀ plat, x.navigation.appareil.valeur (unite plat) = b.content.count plat ∧
      (x.envoyes.map (Ajout.valeur (unite plat))).sum = b.ordered.count plat := by
  intro x b plat
  have fidele : Fidele x b := Machine.run_simulates (acheter user) grant souhait Fidele EnRegle
    (fun x b i held regle => fidele_acheter user x b i held regle) sansAchat Shopping.empty
    interactions fidele_sansAchat regle
  exact ⟨fidele.represente.panier plat, fidele.represente.envoyes plat⟩

def unRiz : List Interaction :=
  [.pushReplacement .googleSignIn, .ouvrir .listResto, .ouvrir (.item "R"),
    .ouvrir (.menu chezAwa), .ouvrir (.rubrique .plats),
    .menuRecu 0 [some ⟨"Riz", "Nos plats", .int 1000⟩, some ⟨"Foutou", "Nos plats", .int 1200⟩],
    .menuPlus 0, .menuPlus 0, .menuPlus 1, .ouvrir .panier, .panierMoins 1, .frame 0,
    .panierMoins 0, .frame 0, .ouvrir .valider, .oui (fun _ => 0)]

theorem one_dish_ordered_as_by_basket :
    let x := Machine.run (acheter Commandes.ada) sansAchat unRiz
    let b := Machine.run grant Shopping.empty
      (Machine.trace (acheter Commandes.ada) souhait sansAchat unRiz)
    (x.envoyes.map (Ajout.valeur (unite ("Riz", some "plats")))).sum = 1 ∧
      x.navigation.appareil.valeur (unite ("Riz", some "plats")) =
          b.content.count ("Riz", some "plats") ∧
        (x.envoyes.map (Ajout.valeur (unite ("Riz", some "plats")))).sum =
          b.ordered.count ("Riz", some "plats") :=
  ⟨by decide +kernel,
    cart_refines_basket Commandes.ada unRiz (by decide +kernel) ("Riz", some "plats")⟩

end EWallet.Session
