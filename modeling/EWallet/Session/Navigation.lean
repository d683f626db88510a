import EWallet.Session.Routes
import EWallet.Commandes.Provenance

namespace EWallet.Session

open Firestore Commandes

structure Navigation where
  pages : List Page
  appareil : Appareil

def accueil : Navigation := ⟨[.signIn], lancement⟩

/-- What can happen. A push or a pop makes the navigator ignore further taps until the next
frame, so that a tap reaches the page on top. `retour` is any pop: the arrow of a page, the back
button, 'Non', 'Annuler', or a payment that has ended. -/
inductive Interaction where
  | ouvrir (touche : Touche)
  | retour
  | pushReplacement (attente : Attente)
  | menuPlus (row : ℕ)
  | menuMoins (row : ℕ)
  | menuRecu (page : ℕ) (plats : List (Option MenuInfo))
  | panierPlus (k : ℕ)
  | panierMoins (k : ℕ)
  | frame (page : ℕ)
  | oui (horloge : ℕ → ℤ)
  | continuer

def entrer (d : Appareil) : Page → Option Action
  | .categoryMenu data rubrique => some (.ouvrirMenu data.id rubrique)
  | .commande data => some (.ouvrirCommande data.id)
  | .dialogCommande _ => some (.valider (d.commandes.length - 1))
  | _ => none

def quitter (d : Appareil) : Page → Option Action
  | .categoryMenu _ _ => some (.fermerMenu (d.menus.length - 1))
  | .commande _ => some (.fermerCommande (d.commandes.length - 1))
  | _ => none

namespace Navigation

def ouverte (s : Navigation) (touche : Touche) : Option Page :=
  s.pages.head?.bind (fun page => Session.ouvrir s.appareil page touche)

def quittee (s : Navigation) : Option Page :=
  match s.pages with
  | page :: _ :: _ => some page
  | _ => none

/-- A `pushReplacement` takes the place of the route on top, whatever it is, as long as the route
it was called from is still there. -/
def remplacee (s : Navigation) (attente : Attente) : Option Page :=
  if attente.depuis ∈ s.pages then s.pages.head? else none

def action (s : Navigation) : Interaction → Option Action
  | .ouvrir touche => (s.ouverte touche).bind (entrer s.appareil)
  | .retour => s.quittee.bind (quitter s.appareil)
  | .pushReplacement attente => (s.remplacee attente).bind (quitter s.appareil)
  | .menuRecu page plats => some (.menuRecu page plats)
  | .frame page => some (.frame page)
  | .menuPlus row =>
      match s.pages with
      | .categoryMenu _ _ :: _ => some (.menuPlus (s.appareil.menus.length - 1) row)
      | _ => none
  | .menuMoins row =>
      match s.pages with
      | .categoryMenu _ _ :: _ => some (.menuMoins (s.appareil.menus.length - 1) row)
      | _ => none
  | .panierPlus k =>
      match s.pages with
      | .commande _ :: _ => some (.panierPlus (s.appareil.commandes.length - 1) k)
      | _ => none
  | .panierMoins k =>
      match s.pages with
      | .commande _ :: _ => some (.panierMoins (s.appareil.commandes.length - 1) k)
      | _ => none
  | .oui horloge =>
      match s.pages with
      | .dialogCommande _ :: _ => some (.oui (s.appareil.commandes.length - 1) horloge)
      | _ => none
  | .continuer => none

def suite (s : Navigation) : Interaction → List Page
  | .ouvrir touche => (s.ouverte touche).toList ++ s.pages
  | .retour => if s.quittee.isSome then s.pages.tail else s.pages
  | .pushReplacement attente =>
      if (s.remplacee attente).isSome then attente.vers :: s.pages.tail else s.pages
  | .oui _ =>
      match s.pages with
      | .dialogCommande _ :: below => below
      | pages => pages
  | _ => s.pages

def paiement (s : Navigation) : Interaction → Option String
  | .continuer =>
      match s.pages with
      | .dialogFacture data :: _ => some data.id
      | _ => none
  | _ => none

end Navigation

def naviguer (s : Navigation) (i : Interaction) : Navigation where
  pages := s.suite i
  appareil := (s.action i).elim s.appareil (step s.appareil)

def Navigation.commandees (user : Utilisateur) (s : Navigation) (i : Interaction) : List Ajout :=
  (s.action i).elim [] (ajouts user s.appareil)

def rubriques (d : Appareil) : List (String × Rubrique) :=
  d.menus.map (fun menu => (menu.restoId, menu.rubrique))

def paniers (d : Appareil) : List (String × ℕ) :=
  d.commandes.map (fun page => (page.restoId, page.dialogues))

theorem map_modify_eq {α β : Type*} (g : α → β) (f : α → α) (same : ∀ x, g (f x) = g x)
    (l : List α) (i : ℕ) : (l.modify i f).map g = l.map g := by
  apply List.ext_getElem?
  intro j
  rw [List.getElem?_map, List.getElem?_modify, List.getElem?_map]
  cases l[j]? with
  | none => rfl
  | some x =>
      by_cases here : i = j
      · simp [here, same]
      · simp [here]

def Remue : Action → Prop
  | .ouvrirMenu _ _ => True
  | .fermerMenu _ => True
  | .ouvrirCommande _ => True
  | .fermerCommande _ => True
  | .valider _ => True
  | _ => False

theorem rubriques_compter (d : Appareil) (page row : ℕ) (f : ℤ → ℤ) :
    rubriques (d.compter page row f) = rubriques d := by
  apply map_modify_eq
  exact fun menu => rfl

theorem supprimer_pages (d : Appareil) (page index : ℕ) :
    rubriques (d.supprimer page index) = rubriques d ∧
      paniers (d.supprimer page index) = paniers d := by
  refine ⟨by rw [rubriques, (d.supprimer_garde page index).2, rubriques], ?_⟩
  unfold Appareil.supprimer
  split
  · apply map_modify_eq
    intro p
    rw [PageCommande.buildListView_restoId, PageCommande.buildListView_dialogues]
  · rfl

theorem menuPlus_pages (d : Appareil) (page row : ℕ) :
    rubriques (d.menuPlus page row) = rubriques d ∧ paniers (d.menuPlus page row) = paniers d := by
  simp only [Appareil.menuPlus, Appareil.ajouter]
  split
  · exact ⟨rfl, rfl⟩
  · split
    · exact ⟨rubriques_compter d page row (· + 1), rfl⟩
    · exact ⟨rubriques_compter d page row (· + 1), rfl⟩

theorem pages_step (d : Appareil) (act : Action) (still : ¬ Remue act) :
    rubriques (step d act) = rubriques d ∧ paniers (step d act) = paniers d := by
  cases act with
  | menuPlus page row => exact menuPlus_pages d page row
  | menuMoins page row =>
      simp only [step, Appareil.menuMoins]
      split
      · exact ⟨rfl, rfl⟩
      · exact ⟨rubriques_compter d page row _, rfl⟩
  | menuRecu page plats =>
      refine ⟨?_, rfl⟩
      apply map_modify_eq
      exact fun menu => rfl
  | frame page =>
      refine ⟨rfl, ?_⟩
      apply map_modify_eq
      exact fun p => rfl
  | panierPlus page k =>
      simp only [step, Appareil.panierPlus]
      split
      · exact ⟨rfl, rfl⟩
      · exact ⟨rfl, rfl⟩
  | panierMoins page k =>
      simp only [step, Appareil.panierMoins]
      split
      · exact ⟨rfl, rfl⟩
      · split
        · exact ⟨rfl, rfl⟩
        · exact supprimer_pages d page _
  | oui page horloge =>
      simp only [step, Appareil.oui]
      split
      · exact ⟨rfl, rfl⟩
      · refine ⟨rfl, ?_⟩
        apply map_modify_eq
        intro p
        rw [PageCommande.buildListView_restoId, PageCommande.buildListView_dialogues]
  | ouvrirMenu restoId rubrique => exact absurd trivial still
  | fermerMenu page => exact absurd trivial still
  | ouvrirCommande restoId => exact absurd trivial still
  | fermerCommande page => exact absurd trivial still
  | valider page => exact absurd trivial still

/-- The routes were put where they are from one another, and the device holds the category pages
and the cart pages among them. A dialog was opened on the last cart page. -/
structure Coherente (s : Navigation) : Prop where
  posees : Posees s.pages
  racine : ∀ page ∈ s.pages.getLast?, page.base = true
  menus : rubriques s.appareil = s.pages.reverse.filterMap Page.rubrique?
  commandes : (paniers s.appareil).map Prod.fst = s.pages.reverse.filterMap Page.panier?
  dialogue : ∀ data, .dialogCommande data ∈ s.pages →
    ∃ n, (paniers s.appareil).getLast? = some (data.id, n) ∧ 0 < n

theorem coherente_accueil : Coherente accueil where
  posees := List.isChain_singleton _
  racine page here := by
    cases here
    rfl
  menus := rfl
  commandes := rfl
  dialogue data member := by
    rw [accueil, List.mem_singleton] at member
    cases member

theorem coherente_calme (s s' : Navigation) (coherente : Coherente s) (pages : s'.pages = s.pages)
    (menus : rubriques s'.appareil = rubriques s.appareil)
    (commandes : paniers s'.appareil = paniers s.appareil) : Coherente s' := by
  cases s'
  subst pages
  exact ⟨coherente.posees, coherente.racine, menus.trans coherente.menus,
    (congrArg (List.map Prod.fst) commandes).trans coherente.commandes,
    fun data member => commandes ▸ coherente.dialogue data member⟩

def Quitte : Interaction → Prop
  | .retour => True
  | .pushReplacement _ => True
  | _ => False

/-- The inversion of `action`: all that an interaction can do to the device, with the page on top
that lets it through. -/
inductive Agit (s : Navigation) : Interaction → Action → Prop
  | ouvrirMenu (touche : Touche) (restoId : String) (rubrique : Rubrique) :
      Agit s (.ouvrir touche) (.ouvrirMenu restoId rubrique)
  | ouvrirCommande (touche : Touche) (restoId : String) :
      Agit s (.ouvrir touche) (.ouvrirCommande restoId)
  | valider (touche : Touche) (page : ℕ) : Agit s (.ouvrir touche) (.valider page)
  | fermerMenu (i : Interaction) (leaves : Quitte i) (page : ℕ) : Agit s i (.fermerMenu page)
  | fermerCommande (i : Interaction) (leaves : Quitte i) (page : ℕ) :
      Agit s i (.fermerCommande page)
  | menuRecu (page : ℕ) (plats : List (Option MenuInfo)) :
      Agit s (.menuRecu page plats) (.menuRecu page plats)
  | frame (page : ℕ) : Agit s (.frame page) (.frame page)
  | menuPlus (row : ℕ) (data : RestoPassedInfo) (rubrique : Rubrique) (below : List Page)
      (top : s.pages = .categoryMenu data rubrique :: below) :
      Agit s (.menuPlus row) (.menuPlus (s.appareil.menus.length - 1) row)
  | menuMoins (row : ℕ) : Agit s (.menuMoins row) (.menuMoins (s.appareil.menus.length - 1) row)
  | panierPlus (k : ℕ) : Agit s (.panierPlus k) (.panierPlus (s.appareil.commandes.length - 1) k)
  | panierMoins (k : ℕ) : Agit s (.panierMoins k) (.panierMoins (s.appareil.commandes.length - 1) k)
  | oui (horloge : ℕ → ℤ) (data : RestoPassedInfo) (below : List Page)
      (top : s.pages = .dialogCommande data :: below) :
      Agit s (.oui horloge) (.oui (s.appareil.commandes.length - 1) horloge)

theorem agit_of_quitter (s : Navigation) (i : Interaction) (leaving : Quitte i) (page : Page)
    (act : Action) (leaves : quitter s.appareil page = some act) : Agit s i act := by
  cases page with
  | categoryMenu data rubrique =>
      cases leaves
      exact .fermerMenu i leaving _
  | commande data =>
      cases leaves
      exact .fermerCommande i leaving _
  | _ => cases leaves

theorem agit_of_action (s : Navigation) (i : Interaction) (act : Action)
    (acts : s.action i = some act) : Agit s i act := by
  cases i with
  | ouvrir touche =>
      obtain ⟨page, _, enters⟩ := Option.bind_eq_some_iff.mp acts
      cases page with
      | categoryMenu data rubrique =>
          cases enters
          exact .ouvrirMenu touche data.id rubrique
      | commande data =>
          cases enters
          exact .ouvrirCommande touche data.id
      | dialogCommande data =>
          cases enters
          exact .valider touche _
      | _ => cases enters
  | retour =>
      obtain ⟨page, _, leaves⟩ := Option.bind_eq_some_iff.mp acts
      exact agit_of_quitter s .retour trivial page act leaves
  | pushReplacement attente =>
      obtain ⟨page, _, leaves⟩ := Option.bind_eq_some_iff.mp acts
      exact agit_of_quitter s (.pushReplacement attente) trivial page act leaves
  | menuRecu page plats =>
      cases acts
      exact .menuRecu page plats
  | frame page =>
      cases acts
      exact .frame page
  | continuer => cases acts
  | menuPlus row =>
      simp only [Navigation.action] at acts
      split at acts
      · rename_i data rubrique below top
        cases acts
        exact .menuPlus row data rubrique below top
      · cases acts
  | menuMoins row =>
      simp only [Navigation.action] at acts
      split at acts <;> cases acts
      exact .menuMoins row
  | panierPlus k =>
      simp only [Navigation.action] at acts
      split at acts <;> cases acts
      exact .panierPlus k
  | panierMoins k =>
      simp only [Navigation.action] at acts
      split at acts <;> cases acts
      exact .panierMoins k
  | oui horloge =>
      simp only [Navigation.action] at acts
      split at acts
      · rename_i data below top
        cases acts
        exact .oui horloge data below top
      · cases acts

theorem action_calme (s : Navigation) (i : Interaction) (act : Action) (agit : Agit s i act)
    (opens : ∀ touche, i ≠ .ouvrir touche) (stays : ¬ Quitte i) : ¬ Remue act := by
  cases agit with
  | ouvrirMenu touche restoId rubrique => exact absurd rfl (opens touche)
  | ouvrirCommande touche restoId => exact absurd rfl (opens touche)
  | valider touche page => exact absurd rfl (opens touche)
  | fermerMenu i leaves page => exact absurd leaves stays
  | fermerCommande i leaves page => exact absurd leaves stays
  | _ => exact id

theorem calme_pages (s : Navigation) (i : Interaction) (opens : ∀ touche, i ≠ .ouvrir touche)
    (stays : ¬ Quitte i) : rubriques (naviguer s i).appareil = rubriques s.appareil ∧
      paniers (naviguer s i).appareil = paniers s.appareil := by
  cases acts : s.action i with
  | none => simp only [naviguer, acts, Option.elim_none, and_self]
  | some act =>
      simp only [naviguer, acts, Option.elim_some]
      exact pages_step s.appareil act
        (action_calme s i act (agit_of_action s i act acts) opens stays)

theorem getLast?_modify_last {α : Type*} (l : List α) (f : α → α) :
    (l.modify (l.length - 1) f).getLast? = l.getLast?.map f := by
  rw [List.getLast?_eq_getElem?, List.length_modify, List.getElem?_modify,
    List.getLast?_eq_getElem?]
  simp

theorem entrer_pages (d : Appareil) (page : Page) :
    rubriques ((entrer d page).elim d (step d)) = rubriques d ++ page.rubrique?.toList ∧
      (paniers ((entrer d page).elim d (step d))).map Prod.fst =
        (paniers d).map Prod.fst ++ page.panier?.toList := by
  cases page with
  | categoryMenu data rubrique =>
      simp [entrer, step, rubriques, paniers, Page.rubrique?, Page.panier?]
  | commande data =>
      simp [entrer, step, rubriques, paniers, Page.rubrique?, Page.panier?, Appareil.ouvrirCommande,
        PageCommande.construire]
  | dialogCommande data =>
      refine ⟨(List.append_nil _).symm, ?_⟩
      have none_ : (Page.dialogCommande data).panier? = none := rfl
      rw [paniers, paniers, List.map_map, List.map_map, none_, Option.toList_none, List.append_nil]
      apply map_modify_eq
      intro p
      dsimp only [Function.comp_apply]
      split
      · rfl
      · rfl
  | _ => simp [entrer, Page.rubrique?, Page.panier?]

theorem map_eraseIdx_last {α β : Type*} (g : α → β) (l : List α) (rest : List β) (b : β)
    (mapped : l.map g = rest ++ [b]) : (l.eraseIdx (l.length - 1)).map g = rest := by
  rw [List.eraseIdx_length_sub_one, List.map_dropLast, mapped, List.dropLast_concat]

theorem quitter_pages (d : Appareil) (page : Page) (menus : List (String × Rubrique))
    (commandes : List String) (above : rubriques d = menus ++ page.rubrique?.toList)
    (above' : (paniers d).map Prod.fst = commandes ++ page.panier?.toList) :
    rubriques ((quitter d page).elim d (step d)) = menus ∧
      (paniers ((quitter d page).elim d (step d))).map Prod.fst = commandes := by
  cases page with
  | categoryMenu data rubrique =>
      refine ⟨map_eraseIdx_last _ _ menus _ above, ?_⟩
      exact above'.trans (List.append_nil _)
  | commande data =>
      refine ⟨above.trans (List.append_nil _), ?_⟩
      rw [paniers, List.map_map] at above' ⊢
      exact map_eraseIdx_last _ _ commandes _ above'
  | _ =>
      simp only [Page.rubrique?, Page.panier?, Option.toList_none, List.append_nil] at above above'
      exact ⟨above, above'⟩

theorem filterMap_reverse_cons {β : Type*} (f : Page → Option β) (page : Page)
    (below : List Page) :
    (page :: below).reverse.filterMap f = below.reverse.filterMap f ++ (f page).toList := by
  rw [List.reverse_cons, List.filterMap_append]
  cases seen : f page with
  | none => simp [seen]
  | some b => simp [seen]

theorem dialogue_valider (s : Navigation) (coherente : Coherente s) (data : RestoPassedInfo)
    (below : List Page) (top : s.pages = .commande data :: below)
    (shown : validerAffiche s.appareil = true) :
    ∃ n, (paniers (s.appareil.valider (s.appareil.commandes.length - 1))).getLast? =
      some (data.id, n) ∧ 0 < n := by
  have ids := coherente.commandes
  rw [top, filterMap_reverse_cons, Page.panier?, Option.toList_some, paniers, List.map_map] at ids
  have last := congrArg List.getLast? ids
  rw [List.getLast?_map, List.getLast?_concat, Option.map_eq_some_iff] at last
  obtain ⟨p, opened, own⟩ := last
  have valid : p.valider = true := by
    simpa [validerAffiche, opened] using shown
  refine ⟨p.dialogues + 1, ?_, Nat.succ_pos _⟩
  rw [Appareil.valider, paniers, List.getLast?_map, getLast?_modify_last, opened]
  simp only [Option.map_some, if_pos valid]
  rw [← own]
  rfl

theorem coherente_entrer (s : Navigation) (page below : Page) (rest : List Page)
    (coherente : Coherente s) (top : s.pages = below :: rest) (opens : Ouvre below page)
    (shown : ∀ data, page = .dialogCommande data → validerAffiche s.appareil = true) :
    Coherente ⟨page :: s.pages, (entrer s.appareil page).elim s.appareil (step s.appareil)⟩ := by
  have posees : Posees (page :: s.pages) := by
    refine List.isChain_cons.mpr ⟨fun next first => ?_, coherente.posees⟩
    rw [top] at first
    cases first
    exact .ouverte opens
  obtain ⟨menus, commandes⟩ := entrer_pages s.appareil page
  refine ⟨posees, ?_, ?_, ?_, ?_⟩
  · rw [List.getLast?_cons_of_ne_nil (by rw [top]; simp)]
    exact coherente.racine
  · rw [menus, coherente.menus, filterMap_reverse_cons]
  · rw [commandes, coherente.commandes, filterMap_reverse_cons]
  · intro data member
    rcases List.mem_cons.mp member with rfl | inside
    · cases opens
      exact dialogue_valider s coherente data rest top (shown data rfl)
    · exact absurd inside (dialogue_au_sommet page s.pages posees data)

theorem coherente_quitter (s : Navigation) (page : Page) (below : List Page)
    (coherente : Coherente s) (top : s.pages = page :: below) :
    Coherente ⟨below, (quitter s.appareil page).elim s.appareil (step s.appareil)⟩ := by
  have posees := coherente.posees
  have root := coherente.racine
  have menus := coherente.menus
  have commandes := coherente.commandes
  rw [top] at posees root
  rw [top, filterMap_reverse_cons] at menus commandes
  obtain ⟨left, left'⟩ := quitter_pages s.appareil page _ _ menus commandes
  refine ⟨posees_tail page below posees, ?_, left, left', ?_⟩
  · cases below with
    | nil => exact fun _ none_ => absurd none_ (by simp)
    | cons next rest => simpa using root
  · intro data member
    exact absurd member (dialogue_au_sommet page below posees data)

theorem coherente_remplacer (s : Navigation) (page base : Page) (below : List Page)
    (coherente : Coherente s) (top : s.pages = page :: below) (based : base.base = true) :
    Coherente ⟨base :: below, (quitter s.appareil page).elim s.appareil (step s.appareil)⟩ := by
  have left := coherente_quitter s page below coherente top
  have posees := coherente.posees
  rw [top] at posees
  have silent : base.rubrique? = none ∧ base.panier? = none ∧
      ∀ data, base ≠ .dialogCommande data := by
    cases base with
    | signIn => exact ⟨rfl, rfl, by simp⟩
    | mainScreen => exact ⟨rfl, rfl, by simp⟩
    | _ => cases based
  obtain ⟨rubrique, panier, dialog⟩ := silent
  refine ⟨?_, ?_, ?_, ?_, ?_⟩
  · have chain := List.isChain_cons.mp posees
    exact List.isChain_cons.mpr
      ⟨fun next first => pose_remplacer next page base (chain.1 next first) based, chain.2⟩
  · cases below with
    | nil =>
        intro last here
        cases here
        exact based
    | cons next rest => simpa using left.racine
  · rw [filterMap_reverse_cons, rubrique, Option.toList_none, List.append_nil]
    exact left.menus
  · rw [filterMap_reverse_cons, panier, Option.toList_none, List.append_nil]
    exact left.commandes
  · intro data member
    rcases List.mem_cons.mp member with same | inside
    · exact absurd same.symm (dialog data)
    · exact left.dialogue data inside

theorem ouverte_cases (s : Navigation) (touche : Touche) (page : Page)
    (opened : s.ouverte touche = some page) :
    ∃ below rest, s.pages = below :: rest ∧ Ouvre below page ∧
      ∀ data, page = .dialogCommande data → validerAffiche s.appareil = true := by
  obtain ⟨below, top, opens⟩ := Option.bind_eq_some_iff.mp opened
  obtain ⟨rest, split⟩ := List.head?_eq_some_iff.mp top
  refine ⟨below, rest, split, ouvre_of_ouvrir s.appareil below page touche opens, ?_⟩
  rintro data rfl
  cases ouvre_of_ouvrir s.appareil below _ touche opens
  by_contra hidden
  cases touche <;> simp [ouvrir, hidden] at opens

theorem coherente_oui (s : Navigation) (horloge : ℕ → ℤ) (coherente : Coherente s) :
    Coherente (naviguer s (.oui horloge)) := by
  obtain ⟨menus, commandes⟩ := calme_pages s (.oui horloge) (by simp) id
  cases pages : s.pages with
  | nil =>
      apply coherente_calme s _ coherente _ menus commandes
      simp [naviguer, Navigation.suite, pages]
  | cons page below =>
      cases page with
      | dialogCommande data =>
          apply coherente_calme _ _ (coherente_quitter s _ below coherente pages) _ menus commandes
          simp [naviguer, Navigation.suite, pages]
      | _ =>
          apply coherente_calme s _ coherente _ menus commandes
          simp [naviguer, Navigation.suite, pages]

theorem coherente_retour (s : Navigation) (coherente : Coherente s) :
    Coherente (naviguer s .retour) := by
  cases left : s.quittee with
  | none =>
      apply coherente_calme s _ coherente <;>
        simp [naviguer, Navigation.suite, Navigation.action, left]
  | some page =>
      have top : s.pages = page :: s.pages.tail := by
        unfold Navigation.quittee at left
        split at left
        · rename_i pages
          cases left
          rw [pages]
          rfl
        · cases left
      have quit := coherente_quitter s page _ coherente top
      simpa [naviguer, Navigation.suite, Navigation.action, left] using quit

theorem vers_base (attente : Attente) : attente.vers.base = true := by
  cases attente <;> rfl

theorem coherente_pushReplacement (s : Navigation) (attente : Attente) (coherente : Coherente s) :
    Coherente (naviguer s (.pushReplacement attente)) := by
  cases left : s.remplacee attente with
  | none =>
      apply coherente_calme s _ coherente <;>
        simp [naviguer, Navigation.suite, Navigation.action, left]
  | some page =>
      have top : s.pages = page :: s.pages.tail := by
        unfold Navigation.remplacee at left
        split at left
        · obtain ⟨rest, split⟩ := List.head?_eq_some_iff.mp left
          rw [split]
          rfl
        · cases left
      have put := coherente_remplacer s page attente.vers _ coherente top (vers_base attente)
      simpa [naviguer, Navigation.suite, Navigation.action, left] using put

theorem coherente_naviguer (s : Navigation) (i : Interaction) (coherente : Coherente s) :
    Coherente (naviguer s i) := by
  have calme : (∀ touche, i ≠ .ouvrir touche) → ¬ Quitte i → s.suite i = s.pages →
      Coherente (naviguer s i) := by
    intro opens stays same
    obtain ⟨menus, commandes⟩ := calme_pages s i opens stays
    exact coherente_calme s _ coherente same menus commandes
  cases i with
  | ouvrir touche =>
      cases opened : s.ouverte touche with
      | none =>
          apply coherente_calme s _ coherente <;>
            simp [naviguer, Navigation.suite, Navigation.action, opened]
      | some page =>
          obtain ⟨below, rest, top, opens, shown⟩ := ouverte_cases s touche page opened
          have entered := coherente_entrer s page below rest coherente top opens shown
          simpa [naviguer, Navigation.suite, Navigation.action, opened] using entered
  | retour => exact coherente_retour s coherente
  | pushReplacement attente => exact coherente_pushReplacement s attente coherente
  | oui horloge => exact coherente_oui s horloge coherente
  | menuPlus row => exact calme (by simp) id rfl
  | menuMoins row => exact calme (by simp) id rfl
  | menuRecu page plats => exact calme (by simp) id rfl
  | panierPlus k => exact calme (by simp) id rfl
  | panierMoins k => exact calme (by simp) id rfl
  | frame page => exact calme (by simp) id rfl
  | continuer => exact calme (by simp) id rfl

theorem coherente_run (interactions : List Interaction) :
    Coherente (Machine.run naviguer accueil interactions) :=
  Machine.run_preserves naviguer Coherente coherente_naviguer accueil interactions
    coherente_accueil

theorem restaurant_du_menu (s : Navigation) (coherente : Coherente s) (menu : CategoryMenu)
    (opened : menu ∈ s.appareil.menus) : .restaurant menu.restoId ∈ s.pages := by
  have listed : (menu.restoId, menu.rubrique) ∈ rubriques s.appareil := List.mem_map_of_mem opened
  rw [coherente.menus, List.mem_filterMap] at listed
  obtain ⟨page, member, shows⟩ := listed
  rw [List.mem_reverse] at member
  cases page with
  | categoryMenu data rubrique =>
      have own : data.id = menu.restoId := congrArg Prod.fst (Option.some.inj shows)
      exact restaurant_dessous s.pages coherente.posees coherente.racine _ member menu.restoId
        (congrArg some own)
  | _ => cases shows

theorem restaurant_du_panier (s : Navigation) (coherente : Coherente s) (p : PageCommande)
    (opened : p ∈ s.appareil.commandes) : .restaurant p.restoId ∈ s.pages := by
  have listed : p.restoId ∈ (paniers s.appareil).map Prod.fst := by
    rw [paniers, List.map_map]
    exact List.mem_map_of_mem opened
  rw [coherente.commandes, List.mem_filterMap] at listed
  obtain ⟨page, member, shows⟩ := listed
  rw [List.mem_reverse] at member
  cases page with
  | commande data =>
      exact restaurant_dessous s.pages coherente.posees coherente.racine _ member p.restoId shows
  | _ => cases shows

/-- The pages opened since a MainScreen or a SignIn was put there, and that one: seven at most,
about one restaurant, whose home page is one of them, with one category page and one cart page. -/
structure Visite (pages : List Page) : Prop where
  sept : pages.length ≤ 7
  seule : ∀ page ∈ pages, ∀ page' ∈ pages, ∀ id id', page.restoId? = some id →
    page'.restoId? = some id' → id = id'
  maison : ∀ page ∈ pages, ∀ id, page.restoId? = some id → .restaurant id ∈ pages
  rubrique : (pages.filterMap Page.rubrique?).length ≤ 1
  panier : (pages.filterMap Page.panier?).length ≤ 1

theorem visite_bloc (pages : List Page) (posees : Posees pages)
    (root : ∀ page ∈ pages.getLast?, page.base = true) : Visite (bloc pages) where
  sept := length_le_sept _ (empilees_bloc pages posees)
  seule page member page' member' id id' about about' :=
    un_restaurant _ (empilees_bloc pages posees) (racine_bloc pages root) page page' member member'
      id id' about about'
  maison page member id about :=
    restaurant_dessous _ (posees_of_empilees _ (empilees_bloc pages posees))
      (racine_bloc pages root) page member id about
  rubrique := by
    apply length_filterMap_le _ (empilees_bloc pages posees) Page.rubrique? 4
    intro page b shows
    cases page <;> first | rfl | cases shows
  panier := by
    apply length_filterMap_le _ (empilees_bloc pages posees) Page.panier? 5
    intro page b shows
    cases page <;> first | rfl | cases shows

/-- However one moves through the application, the routes fall into visits to one restaurant each,
every one above a MainScreen or a SignIn. The device keeps the state of the category pages and of
the cart pages among the routes and of no others, so that nothing is kept where no route is about a
restaurant. -/
theorem routes_about_one_restaurant (interactions : List Interaction) :
    let s := Machine.run naviguer accueil interactions
    (∀ above rest, s.pages = above ++ rest → Visite (bloc rest)) ∧
      rubriques s.appareil = s.pages.reverse.filterMap Page.rubrique? ∧
      (paniers s.appareil).map Prod.fst = s.pages.reverse.filterMap Page.panier? ∧
      ((∀ page ∈ s.pages, page.restoId? = none) →
        s.appareil.menus = [] ∧ s.appareil.commandes = []) := by
  intro s
  have coherente : Coherente s := coherente_run interactions
  refine ⟨?_, coherente.menus, coherente.commandes, fun nowhere => ⟨?_, ?_⟩⟩
  · intro above rest split
    have posees := coherente.posees
    have root := coherente.racine
    rw [split] at posees root
    apply visite_bloc rest (List.isChain_append.mp posees).2.1
    intro page last
    apply root page
    rw [List.getLast?_append, last]
    rfl
  · by_contra some_
    obtain ⟨menu, opened⟩ := List.exists_mem_of_ne_nil _ some_
    have about := nowhere _ (restaurant_du_menu s coherente menu opened)
    cases about
  · by_contra some_
    obtain ⟨p, opened⟩ := List.exists_mem_of_ne_nil _ some_
    have about := nowhere _ (restaurant_du_panier s coherente p opened)
    cases about

theorem document_restaurant (user : Utilisateur) (restoId : String) (maintenant : ℤ)
    (commande : CommandeNewVersion) :
    (document user restoId maintenant commande).string? "id du restaurant" = some restoId := by
  simp [document, Doc.string?, Doc.ofFields, List.lookup_cons]

theorem ajouts_panier (user : Utilisateur) (d : Appareil) (act : Action) (ajout : Ajout)
    (sent : ajout ∈ ajouts user d act) : ∃ p ∈ d.commandes, ajout.restoId = p.restoId ∧
      ajout.data.string? "id du restaurant" = some p.restoId := by
  cases act with
  | oui page horloge =>
      simp only [ajouts] at sent
      cases shown : d.dialogue page with
      | none =>
          rw [shown] at sent
          cases sent
      | some p =>
          rw [shown] at sent
          simp only [confirmer, List.mem_mapIdx] at sent
          obtain ⟨i, bound, rfl⟩ := sent
          obtain ⟨opened, _⟩ := Option.filter_eq_some_iff.mp shown
          exact ⟨p, List.mem_of_getElem? opened, rfl, document_restaurant user _ _ _⟩
  | _ => cases sent

/-- Whatever is ordered or paid, and however one got there, it is at the restaurant whose home
page lies below: the orders are added under that restaurant and name it, the payment looks for an
invoice there, and 'Oui' sends the whole cart. -/
theorem orders_and_payments_at_open_restaurant (user : Utilisateur)
    (interactions : List Interaction) :
    let s := Machine.run naviguer accueil interactions
    (∀ i, ∀ ajout ∈ s.commandees user i, .restaurant ajout.restoId ∈ s.pages ∧
        ajout.data.string? "id du restaurant" = some ajout.restoId) ∧
      (∀ i, ∀ id ∈ s.paiement i, .restaurant id ∈ s.pages) ∧
      ∀ data below horloge, s.pages = .dialogCommande data :: below →
        s.commandees user (.oui horloge) =
          confirmer user data.id horloge s.appareil.lignes := by
  intro s
  have coherente : Coherente s := coherente_run interactions
  refine ⟨?_, ?_, ?_⟩
  · intro i ajout sent
    cases acts : s.action i with
    | none =>
        rw [Navigation.commandees, acts] at sent
        cases sent
    | some act =>
        rw [Navigation.commandees, acts, Option.elim_some] at sent
        obtain ⟨p, opened, own, named⟩ := ajouts_panier user s.appareil act ajout sent
        rw [own]
        exact ⟨restaurant_du_panier s coherente p opened, named⟩
  · intro i id paid
    cases i with
    | continuer =>
        cases pages : s.pages with
        | nil => simp [Navigation.paiement, pages] at paid
        | cons page below =>
            cases page with
            | dialogFacture data =>
                simp only [Navigation.paiement, pages, Option.mem_some_iff] at paid
                rw [← pages]
                apply restaurant_dessous s.pages coherente.posees coherente.racine
                  (.dialogFacture data)
                · rw [pages]
                  exact List.mem_cons_self
                · exact congrArg some paid
            | _ => simp [Navigation.paiement, pages] at paid
    | _ => cases paid
  · intro data below horloge top
    obtain ⟨n, last, open_⟩ := coherente.dialogue data (by rw [top]; exact List.mem_cons_self)
    rw [paniers, List.getLast?_map, Option.map_eq_some_iff] at last
    obtain ⟨p, opened, same⟩ := last
    rw [Prod.mk.injEq] at same
    have shown : s.appareil.dialogue (s.appareil.commandes.length - 1) = some p := by
      rw [Appareil.dialogue, ← List.getLast?_eq_getElem?, opened, Option.filter_some]
      simp [same.2, open_]
    simp only [Navigation.commandees, Navigation.action, top, Option.elim_some, ajouts, shown,
      same.1]

end EWallet.Session
