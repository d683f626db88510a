import EWallet.Session.Parcours
import EWallet.Commandes.Retrait

namespace EWallet.Session

open Firestore Commandes

/-- What is sure of the cart page opened last: its list was built from the cart as it is, and the
screen shows such a list. -/
structure Image where
  construite : Bool
  dessinee : Bool

/-- Every line left by a removal has a null category, so that `buildListView` does not throw. -/
def rebatie (d : Appareil) (index : ℕ) : Bool :=
  (d.listeCommande.eraseIdx index).all (fun r => (iconCat2 (d.objets r).categorie).isNone)

/-- What an action makes of it. A `+` on a menu may bring a line that no cart page below has, and a
cart page that closes may leave another one as the last. -/
def reporter (d : Appareil) (image : Image) : Action → Image
  | .ouvrirCommande _ => ⟨true, true⟩
  | .fermerCommande _ => ⟨false, false⟩
  | .menuPlus _ _ => ⟨false, false⟩
  | .frame page =>
      if page = d.commandes.length - 1 then ⟨image.construite, image.construite⟩ else image
  | .panierMoins page k =>
      match d.affiche page k with
      | none => image
      | some widget =>
          if (d.objets widget.item).quantite > 1 then image
          else if widget.index < d.listeCommande.length then ⟨rebatie d widget.index, false⟩
          else image
  | .oui page _ => if (d.dialogue page).isSome then ⟨true, false⟩ else image
  | _ => image

structure Conforme (d : Appareil) (image : Image) : Prop where
  construite : image.construite = true → ∀ p ∈ d.commandes.getLast?,
    p.listCommande2 = PageCommande.initState d.listeCommande
  dessinee : image.dessinee = true → ∀ p ∈ d.commandes.getLast?,
    p.affiches = PageCommande.initState d.listeCommande

def Atteint (d : Appareil) : Action → Prop
  | .panierMoins page _ => page = d.commandes.length - 1
  | .oui page _ => page = d.commandes.length - 1
  | _ => True

theorem last_modify {α : Type*} (P : α → Prop) (f : α → α) (keep : ∀ x, P x → P (f x))
    (l : List α) (i : ℕ) (last : ∀ x ∈ l.getLast?, P x) : ∀ x ∈ (l.modify i f).getLast?, P x := by
  intro x here
  rw [List.getLast?_eq_getElem?, List.length_modify, List.getElem?_modify,
    ← List.getLast?_eq_getElem?] at here
  obtain ⟨old, there, rfl⟩ := Option.map_eq_some_iff.mp here
  split
  · exact keep old (last old there)
  · exact last old there

theorem items_initState (listeCommande : List ℕ) :
    (PageCommande.initState listeCommande).map MenuItemWidget.item = listeCommande := by
  apply List.ext_getElem?
  intro j
  rw [PageCommande.initState, List.getElem?_map, List.getElem?_mapIdx]
  cases listeCommande[j]? <;> rfl

theorem construire_affiches (p : PageCommande) (listeCommande : List ℕ)
    (built : p.listCommande2 = PageCommande.initState listeCommande) :
    (p.construire listeCommande).affiches = PageCommande.initState listeCommande := by
  simp only [PageCommande.construire]
  split
  · rename_i none_
    rw [none_]
    rfl
  · exact built

theorem conforme_calme (d d' : Appareil) (image : Image) (conforme : Conforme d image)
    (liste : d'.listeCommande = d.listeCommande) (commandes : d'.commandes = d.commandes) :
    Conforme d' image where
  construite := by
    rw [liste, commandes]
    exact conforme.construite
  dessinee := by
    rw [liste, commandes]
    exact conforme.dessinee

theorem conforme_inconnue (d : Appareil) : Conforme d ⟨false, false⟩ :=
  ⟨fun known => absurd known (by simp), fun known => absurd known (by simp)⟩

theorem conforme_frame (d : Appareil) (image : Image) (conforme : Conforme d image) (page : ℕ) :
    Conforme (d.frame page) (reporter d image (.frame page)) := by
  have built : image.construite = true → ∀ p ∈ (d.frame page).commandes.getLast?,
      p.listCommande2 = PageCommande.initState d.listeCommande := fun known =>
    last_modify (fun p : PageCommande => p.listCommande2 = PageCommande.initState d.listeCommande)
      (fun p => p.construire d.listeCommande) (fun _ held => held) d.commandes page
      (conforme.construite known)
  simp only [reporter]
  split
  · rename_i last
    refine ⟨built, fun known p here => ?_⟩
    rw [Appareil.frame, last, getLast?_modify_last, Option.mem_map] at here
    obtain ⟨old, there, rfl⟩ := here
    exact construire_affiches old d.listeCommande (conforme.construite known old there)
  · rename_i other
    refine ⟨built, fun known p here => ?_⟩
    apply conforme.dessinee known p
    rw [Appareil.frame, List.getLast?_eq_getElem?, List.length_modify, List.getElem?_modify,
      ← List.getLast?_eq_getElem?] at here
    simpa [other] using here

theorem conforme_panierMoins (d : Appareil) (image : Image) (conforme : Conforme d image)
    (page k : ℕ) (reached : page = d.commandes.length - 1) :
    Conforme (d.panierMoins page k) (reporter d image (.panierMoins page k)) := by
  simp only [Appareil.panierMoins, reporter]
  cases shown : d.affiche page k with
  | none => exact conforme
  | some widget =>
      by_cases several : (d.objets widget.item).quantite > 1
      · simp only [if_pos several]
        exact conforme_calme d _ image conforme rfl rfl
      · simp only [if_neg several, Appareil.supprimer]
        split
        · refine ⟨fun known p here => ?_, fun known => absurd known (by simp)⟩
          rw [reached, getLast?_modify_last, Option.mem_map] at here
          obtain ⟨old, there, rfl⟩ := here
          rw [PageCommande.buildListView_reussi]
          simpa [rebatie] using known
        · exact conforme

theorem conforme_oui (d : Appareil) (image : Image) (conforme : Conforme d image) (page : ℕ)
    (horloge : ℕ → ℤ) (reached : page = d.commandes.length - 1) :
    Conforme (d.oui page) (reporter d image (.oui page horloge)) := by
  simp only [Appareil.oui, reporter]
  cases shown : d.dialogue page with
  | none => exact conforme
  | some p =>
      refine ⟨fun _ p here => ?_, fun known => absurd known (by simp)⟩
      rw [reached, getLast?_modify_last, Option.mem_map] at here
      obtain ⟨old, there, rfl⟩ := here
      rw [PageCommande.buildListView_reussi _ _ _ (by simp)]

theorem conforme_step (d : Appareil) (image : Image) (conforme : Conforme d image) (act : Action)
    (reached : Atteint d act) : Conforme (step d act) (reporter d image act) := by
  cases act with
  | ouvrirCommande restoId =>
      refine ⟨fun _ p here => ?_, fun _ p here => ?_⟩
      · rw [step, Appareil.ouvrirCommande, List.getLast?_concat] at here
        cases here
        rfl
      · rw [step, Appareil.ouvrirCommande, List.getLast?_concat] at here
        cases here
        exact construire_affiches _ d.listeCommande rfl
  | fermerCommande page => exact conforme_inconnue _
  | menuPlus page row => exact conforme_inconnue _
  | frame page => exact conforme_frame d image conforme page
  | panierMoins page k => exact conforme_panierMoins d image conforme page k reached
  | oui page horloge => exact conforme_oui d image conforme page horloge reached
  | valider page =>
      have listed : ∀ p : PageCommande, (if p.valider then { p with dialogues := p.dialogues + 1 }
          else p).listCommande2 = p.listCommande2 ∧ (if p.valider then
            { p with dialogues := p.dialogues + 1 } else p).affiches = p.affiches := by
        intro p
        split
        · exact ⟨rfl, rfl⟩
        · exact ⟨rfl, rfl⟩
      exact ⟨fun known => last_modify (fun p : PageCommande => p.listCommande2 = _) _
          (fun p held => (listed p).1.trans held) d.commandes page (conforme.construite known),
        fun known => last_modify (fun p : PageCommande => p.affiches = _) _
          (fun p held => (listed p).2.trans held) d.commandes page (conforme.dessinee known)⟩
  | menuMoins page row =>
      simp only [step, Appareil.menuMoins]
      split
      · exact conforme
      · exact conforme_calme d _ image conforme rfl rfl
  | panierPlus page k =>
      simp only [step, Appareil.panierPlus]
      split
      · exact conforme
      · exact conforme_calme d _ image conforme rfl rfl
  | ouvrirMenu restoId rubrique => exact conforme_calme d _ image conforme rfl rfl
  | menuRecu page plats => exact conforme_calme d _ image conforme rfl rfl
  | fermerMenu page => exact conforme_calme d _ image conforme rfl rfl

structure Regard where
  navigation : Navigation
  image : Image

def regarder (x : Regard) (i : Interaction) : Regard where
  navigation := naviguer x.navigation i
  image := (x.navigation.action i).elim x.image (reporter x.navigation.appareil x.image)

def premierRegard : Regard := ⟨accueil, ⟨false, false⟩⟩

theorem atteint_action (s : Navigation) (i : Interaction) (act : Action) (agit : Agit s i act) :
    Atteint s.appareil act := by
  cases agit with
  | panierMoins k => rfl
  | oui horloge data below top => rfl
  | _ => trivial

theorem conforme_regarder (x : Regard) (i : Interaction)
    (conforme : Conforme x.navigation.appareil x.image) :
    Conforme (regarder x i).navigation.appareil (regarder x i).image := by
  cases acts : x.navigation.action i with
  | none =>
      simp only [regarder, naviguer, acts, Option.elim_none]
      exact conforme
  | some act =>
      simp only [regarder, naviguer, acts, Option.elim_some]
      exact conforme_step x.navigation.appareil x.image conforme act
        (atteint_action x.navigation i act (agit_of_action x.navigation i act acts))

theorem ordonne_naviguer (s : Navigation) (i : Interaction) (ordonne : Ordonne s.appareil) :
    Ordonne (naviguer s i).appareil := by
  cases acts : s.action i with
  | none =>
      simp only [naviguer, acts, Option.elim_none]
      exact ordonne
  | some act =>
      simp only [naviguer, acts, Option.elim_some]
      exact ordonne_step s.appareil act ordonne

theorem affiche_conforme (d : Appareil) (image : Image) (conforme : Conforme d image)
    (drawn : image.dessinee = true) (k : ℕ) (widget : MenuItemWidget)
    (shown : d.affiche (d.commandes.length - 1) k = some widget) :
    d.listeCommande[widget.index]? = some widget.item := by
  simp only [Appareil.affiche, Option.bind_eq_bind, Option.bind_eq_some_iff] at shown
  obtain ⟨p, opened, at_⟩ := shown
  rw [← List.getLast?_eq_getElem?] at opened
  rw [conforme.dessinee drawn p opened, PageCommande.initState, List.getElem?_mapIdx,
    Option.map_eq_some_iff] at at_
  obtain ⟨r, line, rfl⟩ := at_
  exact line

/-- However one moves through the application, as long as the cart page was drawn since the last
`-` that removed a line or 'Oui', and none of those since it was opened has left a line with a
category, the page shows the lines of the cart in their order, and a `-` on one of them takes a
unit from it or removes it, and nothing else. -/
theorem cart_page_is_cart_once_drawn (interactions : List Interaction)
    (drawn : (Machine.run regarder premierRegard interactions).image.dessinee = true) :
    let s := (Machine.run regarder premierRegard interactions).navigation
    (∀ p ∈ s.appareil.commandes.getLast?,
        p.affiches.map MenuItemWidget.item = s.appareil.listeCommande) ∧
      ∀ data below k widget, s.pages = .commande data :: below →
        s.appareil.affiche (s.appareil.commandes.length - 1) k = some widget →
          Retire s.appareil (naviguer s (.panierMoins k)).appareil widget.item := by
  intro s
  have conforme := Machine.run_preserves regarder
    (fun x => Conforme x.navigation.appareil x.image) conforme_regarder premierRegard interactions
    (conforme_inconnue lancement)
  have ordonne : Ordonne s.appareil :=
    Machine.run_preserves regarder (fun x => Ordonne x.navigation.appareil)
      (fun x i => ordonne_naviguer x.navigation i) premierRegard interactions ordonne_lancement
  constructor
  · intro p last
    rw [conforme.dessinee drawn p last]
    exact items_initState s.appareil.listeCommande
  · intro data below k widget top shown
    simp only [naviguer, Navigation.action, top, Option.elim_some, step]
    rw [retire_iff s.appareil ordonne.nodup _ k widget shown]
    exact fun _ _ => affiche_conforme s.appareil _ conforme drawn k widget shown

def troisPlatsDessines : List Interaction :=
  [.pushReplacement .initializeFirebase, .ouvrir .listResto, .ouvrir (.item "R"),
    .ouvrir (.menu chezAwa), .ouvrir (.rubrique .platsDuJour),
    .menuRecu 0 [some ⟨"Riz", "Les plats du jour", .int 1000⟩,
      some ⟨"Foutou", "Les plats du jour", .int 1200⟩,
      some ⟨"Attieke", "Les plats du jour", .int 800⟩],
    .menuPlus 0, .menuPlus 1, .menuPlus 2, .ouvrir .panier, .panierMoins 0, .frame 0]

theorem second_tap_after_frame :
    let s := (Machine.run regarder premierRegard troisPlatsDessines).navigation
    s.appareil.lignes = [⟨"Foutou", none, 1200, 1⟩, ⟨"Attieke", none, 800, 1⟩] ∧
      (naviguer s (.panierMoins 1)).appareil.lignes = [⟨"Foutou", none, 1200, 1⟩] ∧
      Retire s.appareil (naviguer s (.panierMoins 1)).appareil 3 :=
  ⟨by decide +kernel, by decide +kernel,
    (cart_page_is_cart_once_drawn troisPlatsDessines (by decide +kernel)).2 _ _ 1 ⟨1, 3⟩ rfl
      (by decide +kernel)⟩

end EWallet.Session
