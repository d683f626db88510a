import EWallet.Session.Navigation
import EWallet.Commandes.Panier

namespace EWallet.Session

open Firestore Commandes

structure Parcours where
  pages : List Page
  suivi : Suivi

def Parcours.navigation (p : Parcours) : Navigation := ⟨p.pages, p.suivi.appareil⟩

def parcourir (user : Utilisateur) (p : Parcours) (i : Interaction) : Parcours where
  pages := p.navigation.suite i
  suivi := (p.navigation.action i).elim p.suivi (tracer user p.suivi)

def depart : Parcours := ⟨[.signIn], sansTap⟩

def enVisite (pages : List Page) : Bool := (bloc pages).any (fun page => page.restoId?.isSome)

/-- An interaction comes to a restaurant: it opens one, or goes back to the pages of one over which
a MainScreen or a SignIn was put. -/
def arrive (s : Navigation) (i : Interaction) : Bool := enVisite (s.suite i) && !enVisite s.pages

/-- One comes to no restaurant with a line in the cart. -/
def PanierVide (p : Parcours) (i : Interaction) : Prop :=
  arrive p.navigation i = true → p.suivi.appareil.listeCommande = []

instance (p : Parcours) (i : Interaction) : Decidable (PanierVide p i) :=
  inferInstanceAs (Decidable (_ → _))

/-- During a visit to a restaurant, every line of the cart was created on its menus. -/
structure Siennes (p : Parcours) : Prop where
  fideles : Fideles p.suivi
  lignes : ∀ id, .restaurant id ∈ bloc p.pages → ∀ r ∈ p.suivi.appareil.listeCommande,
    p.suivi.origine r = some id

theorem navigation_parcourir (user : Utilisateur) (p : Parcours) (i : Interaction) :
    (parcourir user p i).navigation = naviguer p.navigation i := by
  simp only [Parcours.navigation, parcourir, naviguer]
  cases Navigation.action ⟨p.pages, p.suivi.appareil⟩ i with
  | none => rfl
  | some act => rfl

theorem origine_tracer (user : Utilisateur) (s : Suivi) (fideles : Fideles s) (act : Action)
    (r : ℕ) (member : r ∈ (tracer user s act).appareil.listeCommande) :
    (r ∈ s.appareil.listeCommande ∧ (tracer user s act).origine r = s.origine r) ∨
    ∃ page row menu, act = .menuPlus page row ∧ s.appareil.menus[page]? = some menu ∧
      (tracer user s act).origine r = some menu.restoId := by
  by_cases plus : ∃ page row, act = .menuPlus page row
  · obtain ⟨page, row, rfl⟩ := plus
    cases shown : s.appareil.rangee page row with
    | none =>
        rw [tracer, step, s.appareil.menuPlus_rien page row shown] at member
        refine Or.inl ⟨member, ?_⟩
        simp only [Suivi.origine, tracer, marquer, shown]
    | some rangee =>
        obtain ⟨menu, plat, prix⟩ := rangee
        have opened := (s.appareil.rangee_menu page row menu plat prix shown).1
        cases found : s.appareil.contain (Appareil.demande menu plat prix row) with
        | none =>
            have liste := (s.appareil.menuPlus_nouvelle page row menu plat prix shown found).1
            rw [tracer, step, liste, List.mem_append, List.mem_singleton] at member
            rcases member with old | new
            · have different : r ≠ s.appareil.nouveau := fun same =>
                s.appareil.nouveau_not_mem (same ▸ old)
              refine Or.inl ⟨old, ?_⟩
              simp only [Suivi.origine, tracer, marquer, shown, found,
                Function.update_of_ne different]
            · refine Or.inr ⟨page, row, menu, rfl, opened, ?_⟩
              simp only [Suivi.origine, tracer, marquer, shown, found, new, Function.update_self,
                List.head?_cons]
        | some r' =>
            have liste := (s.appareil.menuPlus_accrue page row menu plat prix shown r' found).1
            rw [tracer, step, liste] at member
            refine Or.inl ⟨member, ?_⟩
            simp only [Suivi.origine, tracer, marquer, shown, found]
            by_cases same : r = r'
            · rw [← same, Function.update_self, List.head?_append_of_ne_nil]
              exact (fideles.lignes r member).1
            · rw [Function.update_of_ne same]
  · have other : ∀ page row, act ≠ .menuPlus page row :=
      fun page row same => plus ⟨page, row, same⟩
    have taps : marquer s.appareil s.taps act = s.taps := by
      cases act with
      | menuPlus page row => exact absurd rfl (other page row)
      | _ => rfl
    refine Or.inl ⟨(liste_step s.appareil act other).subset member, ?_⟩
    simp only [Suivi.origine, tracer, taps]

theorem menu_du_sommet (s : Navigation) (coherente : Coherente s) (data : RestoPassedInfo)
    (rubrique : Rubrique) (below : List Page) (top : s.pages = .categoryMenu data rubrique :: below)
    (menu : CategoryMenu) (last : s.appareil.menus[s.appareil.menus.length - 1]? = some menu) :
    menu.restoId = data.id := by
  have menus := coherente.menus
  rw [top, filterMap_reverse_cons, Page.rubrique?, Option.toList_some] at menus
  have ends := congrArg List.getLast? menus
  rw [rubriques, List.getLast?_map, List.getLast?_eq_getElem?, last, List.getLast?_concat] at ends
  exact congrArg Prod.fst (Option.some.inj ends)

theorem panier_du_dialogue (s : Navigation) (coherente : Coherente s) (data : RestoPassedInfo)
    (below : List Page) (top : s.pages = .dialogCommande data :: below) (p : PageCommande)
    (shown : s.appareil.dialogue (s.appareil.commandes.length - 1) = some p) :
    p.restoId = data.id := by
  obtain ⟨n, last, _⟩ := coherente.dialogue data (by rw [top]; exact List.mem_cons_self)
  have opened := (Option.filter_eq_some_iff.mp shown).1
  rw [paniers, List.getLast?_map, List.getLast?_eq_getElem?, opened, Option.map_some,
    Option.some.injEq, Prod.mk.injEq] at last
  exact last.1

theorem maison_du_sommet (s : Navigation) (coherente : Coherente s) (page : Page)
    (below : List Page) (top : s.pages = page :: below) (id : String)
    (about : page.restoId? = some id) : .restaurant id ∈ bloc s.pages := by
  apply (visite_bloc s.pages coherente.posees coherente.racine).maison page _ id about
  rw [top, bloc]
  split
  · exact List.mem_singleton.mpr rfl
  · exact List.mem_cons_self

theorem sansMelange_siennes (p : Parcours) (coherente : Coherente p.navigation)
    (siennes : Siennes p) (i : Interaction) (act : Action) (agit : Agit p.navigation i act) :
    SansMelange p.suivi act := by
  cases agit with
  | menuPlus row data rubrique below top =>
      intro menu plat prix r shown found
      have opened := (p.suivi.appareil.rangee_menu _ row menu plat prix shown).1
      rw [menu_du_sommet p.navigation coherente data rubrique below top menu opened]
      apply siennes.lignes data.id (maison_du_sommet p.navigation coherente _ below top _ rfl)
      exact (p.suivi.appareil.contain_mem _ r found).1
  | oui horloge data below top =>
      intro panier shown r member
      rw [panier_du_dialogue p.navigation coherente data below top panier shown]
      exact siennes.lignes data.id (maison_du_sommet p.navigation coherente _ below top _ rfl) r
        member
  | _ => trivial

theorem ouvre_base (below above : Page) (opens : Ouvre below above) : above.base = false := by
  cases opens <;> rfl

theorem enVisite_liste (s : Navigation) (coherente : Coherente s) (below : Page)
    (rest : List Page) (top : s.pages = below :: rest) (id : String)
    (opens : Ouvre below (.restaurant id)) : enVisite s.pages = false := by
  by_contra visiting
  rw [Bool.not_eq_false, enVisite, List.any_eq_true] at visiting
  obtain ⟨page, member, about⟩ := visiting
  obtain ⟨id', named⟩ := Option.isSome_iff_exists.mp about
  have visite := visite_bloc s.pages coherente.posees coherente.racine
  have home := visite.maison page member id' named
  have climbs := empilees_rang _ (empilees_bloc s.pages coherente.posees)
  have low : below.rang = 1 ∧ below.base = false ∧ below ≠ .restaurant id' := by
    cases opens <;> exact ⟨rfl, rfl, by simp⟩
  rw [top, bloc_ouverte below rest low.2.1] at home climbs
  rcases List.mem_cons.mp home with same | inside
  · exact low.2.2 same.symm
  · have lower := (List.pairwise_cons.mp climbs).1 _ inside
    rw [low.1] at lower
    exact absurd lower (by simp [Page.rang])

theorem base_sans_visite (page : Page) (below : List Page) (base : page.base = true) :
    enVisite (page :: below) = false := by
  rw [enVisite, bloc_base page below base]
  simp [base_restoId? page base]

theorem restaurant_reste (s : Navigation) (coherente : Coherente s) (i : Interaction)
    (visiting : enVisite s.pages = true) (id : String)
    (member : .restaurant id ∈ bloc (s.suite i)) : .restaurant id ∈ bloc s.pages := by
  have inner : ∀ page below, s.pages = page :: below → page.base = false := by
    intro page below top
    by_contra base
    rw [top, base_sans_visite page below (by simpa using base)] at visiting
    cases visiting
  cases i with
  | ouvrir touche =>
      cases opened : s.ouverte touche with
      | none => simpa [Navigation.suite, opened] using member
      | some page =>
          obtain ⟨below, rest, top, opens, _⟩ := ouverte_cases s touche page opened
          simp only [Navigation.suite, opened, Option.toList_some, List.singleton_append] at member
          rw [bloc_ouverte page s.pages (ouvre_base below page opens)] at member
          rcases List.mem_cons.mp member with rfl | inside
          · rw [enVisite_liste s coherente below rest top id opens] at visiting
            cases visiting
          · exact inside
  | retour =>
      rw [Navigation.suite] at member
      split at member
      · cases pages : s.pages with
        | nil =>
            rw [pages] at member
            cases member
        | cons page below =>
            rw [pages, List.tail_cons] at member
            rw [bloc_ouverte page below (inner page below pages)]
            exact List.mem_cons_of_mem page member
      · exact member
  | pushReplacement attente =>
      rw [Navigation.suite] at member
      split at member
      · rw [bloc_base _ _ (vers_base attente), List.mem_singleton] at member
        have based := vers_base attente
        rw [← member] at based
        cases based
      · exact member
  | oui horloge =>
      rw [Navigation.suite] at member
      split at member
      · rename_i data below pages
        rw [pages, bloc_ouverte _ below rfl]
        exact List.mem_cons_of_mem _ member
      · exact member
  | _ => exact member

theorem siennes_parcourir (user : Utilisateur) (p : Parcours) (i : Interaction)
    (coherente : Coherente p.navigation) (siennes : Siennes p) (empty : PanierVide p i) :
    Siennes (parcourir user p i) := by
  -- where a visit begins, the cart is empty; elsewhere the restaurant is the one of the visit
  have lines : ∀ id, .restaurant id ∈ bloc (parcourir user p i).pages →
      ∀ r ∈ p.suivi.appareil.listeCommande, p.suivi.origine r = some id := by
    intro id member r line
    cases visiting : enVisite p.pages with
    | true =>
        have same := restaurant_reste p.navigation coherente i visiting id member
        exact siennes.lignes id same r line
    | false =>
        have comes : arrive p.navigation i = true := by
          rw [arrive, Bool.and_eq_true]
          exact ⟨List.any_eq_true.mpr ⟨_, member, rfl⟩, by simp [Parcours.navigation, visiting]⟩
        rw [empty comes] at line
        cases line
  cases acts : p.navigation.action i with
  | none =>
      have same : (parcourir user p i).suivi = p.suivi := by
        simp only [parcourir, acts, Option.elim_none]
      refine ⟨same ▸ siennes.fideles, fun id member r line => ?_⟩
      rw [same] at line ⊢
      exact lines id member r line
  | some act =>
      have agit := agit_of_action p.navigation i act acts
      have moved : (parcourir user p i).suivi = tracer user p.suivi act := by
        simp only [parcourir, acts, Option.elim_some]
      refine ⟨?_, fun id member r line => ?_⟩
      · rw [moved, fideles_tracer user p.suivi act siennes.fideles]
        exact sansMelange_siennes p coherente siennes i act agit
      · rw [moved] at line ⊢
        rcases origine_tracer user p.suivi siennes.fideles act r line with
          ⟨old, same⟩ | ⟨page, row, menu, rfl, opened, made⟩
        · rw [same]
          exact lines id member r old
        · cases agit with
          | menuPlus row data rubrique below top =>
              have own := menu_du_sommet p.navigation coherente data rubrique below top menu opened
              have home := maison_du_sommet p.navigation coherente _ below top data.id rfl
              have visite := visite_bloc p.pages coherente.posees coherente.racine
              rw [made, own, visite.seule _ home _ member data.id id rfl rfl]

theorem siennes_depart : Siennes depart where
  fideles := ⟨fun e sent => absurd sent List.not_mem_nil,
    fun r member => absurd member List.not_mem_nil⟩
  lignes id member := by
    rw [depart, bloc_base _ _ rfl, List.mem_singleton] at member
    cases member

/-- However one moves through the application, as long as one comes to no restaurant with a line in
the cart, every order comes from `+` taps on the menu of the restaurant it is sent to, and no line
mixes the taps of two restaurants. -/
theorem orders_stay_when_cart_empty_at_opening (user : Utilisateur)
    (interactions : List Interaction)
    (empty : Machine.Along (parcourir user) PanierVide depart interactions) :
    ∀ front back, interactions = front ++ back →
      Fideles (Machine.run (parcourir user) depart front).suivi := by
  intro front back split
  rw [split, Machine.along_append] at empty
  have kept := Machine.run_invariant (parcourir user)
    (fun p => Coherente p.navigation ∧ Siennes p) PanierVide
    (fun p i held vide => ⟨by
        rw [navigation_parcourir]
        exact coherente_naviguer p.navigation i held.1,
      siennes_parcourir user p i held.1 held.2 vide⟩)
    depart front ⟨coherente_accueil, siennes_depart⟩ empty.1
  exact kept.2.fideles

def chezAwa : Doc := Doc.ofFields [("nom", .string "Chez Awa"), ("localisation", .string "Cocody"),
  ("vote", .map [("note", .number (.double (.ofRat (9 / 2))))])]

def deuxVisites : List Interaction :=
  [.ouvrir .signInScreen, .pushReplacement .signInWithEmailAndPassword, .ouvrir .listResto,
    .ouvrir (.item "R"), .ouvrir (.menu chezAwa), .ouvrir (.rubrique .plats),
    .menuRecu 0 [some ⟨"Riz", "Nos plats", .int 1000⟩], .menuPlus 0, .ouvrir .panier,
    .ouvrir .valider, .oui (fun _ => 0), .retour, .retour, .retour, .retour, .ouvrir (.item "S"),
    .ouvrir (.commande chezAwa)]

theorem orders_stay_over_two_visits :
    Fideles (Machine.run (parcourir Commandes.ada) depart deuxVisites).suivi ∧
      (Machine.run (parcourir Commandes.ada) depart deuxVisites).suivi.envoyes.map
        (fun e => (e.1.restoId, e.2)) = [("R", ["R"])] :=
  ⟨orders_stay_when_cart_empty_at_opening Commandes.ada deuxVisites (by decide +kernel)
    deuxVisites [] (List.append_nil _).symm, by decide +kernel⟩

end EWallet.Session
