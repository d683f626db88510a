import EWallet.Session.Vitrine
import EWallet.Commandes.Appareil
import Mathlib.Data.List.Chain

namespace EWallet.Session

open Firestore Commandes

structure RestoPassedInfo where
  nom : String
  localisation : String
  note : Option Number
  id : String
  categorie : Option (List String)
  deriving DecidableEq

inductive Page where
  | signIn
  | signInScreen
  | registerScreen
  | mainScreen
  | listResto
  | listRestoFav
  | restaurant (id : String)
  | menu (data : RestoPassedInfo)
  | categoryMenu (data : RestoPassedInfo) (rubrique : Rubrique)
  | commande (data : RestoPassedInfo)
  | facture (data : RestoPassedInfo)
  | dialogNote (id : String)
  | dialogCommande (data : RestoPassedInfo)
  | dialogFacture (data : RestoPassedInfo)
  deriving DecidableEq

/-- The taps that open a page. On the home page of a restaurant they carry the document that it
shows, in a list the id that the router makes of the item. -/
inductive Touche where
  | signInScreen
  | registerScreen
  | listResto
  | listRestoFav
  | item (id : String)
  | menu (resto : Doc)
  | commande (resto : Doc)
  | facture (resto : Doc)
  | noter (resto : Doc)
  | rubrique (rubrique : Rubrique)
  | panier
  | valider
  | payer

def passer (id : String) (resto : Doc) : Option RestoPassedInfo := do
  let montree ← fiche resto
  let note ← enNum montree.note
  return ⟨montree.nom, montree.localisation, note, id, none⟩

def validerAffiche (d : Appareil) : Bool := d.commandes.getLast?.any PageCommande.valider

def ouvrir (d : Appareil) : Page → Touche → Option Page
  | .signIn, .signInScreen => some .signInScreen
  | .signIn, .registerScreen => some .registerScreen
  | .mainScreen, .listResto => some .listResto
  | .mainScreen, .listRestoFav => some .listRestoFav
  | .listResto, .item id => some (.restaurant id)
  | .listRestoFav, .item id => some (.restaurant id)
  | .restaurant id, .menu resto => (passer id resto).map .menu
  | .restaurant id, .commande resto => (passer id resto).map .commande
  | .restaurant id, .facture resto => (passer id resto).map .facture
  | .restaurant id, .noter resto => (fiche resto).map (fun _ => .dialogNote id)
  | .menu data, .rubrique rubrique => some (.categoryMenu
      { data with categorie := some [rubrique.titre, rubrique.collection] } rubrique)
  | .categoryMenu data _, .panier => some (.commande { data with categorie := none })
  | .commande data, .valider => if validerAffiche d then some (.dialogCommande data) else none
  | .facture data, .payer => some (.dialogFacture data)
  | _, _ => none

/-- The handlers that end, at some time after they were started, in a `pushReplacement`. The first
is started by every build of `Connexion`, also below other routes. -/
inductive Attente where
  | initializeFirebase
  | googleSignIn
  | signInWithEmailAndPassword
  | register
  | logout
  deriving DecidableEq

namespace Attente

def depuis : Attente → Page
  | initializeFirebase => .signIn
  | googleSignIn => .signIn
  | signInWithEmailAndPassword => .signInScreen
  | register => .registerScreen
  | logout => .mainScreen

def vers : Attente → Page
  | initializeFirebase => .mainScreen
  | googleSignIn => .mainScreen
  | signInWithEmailAndPassword => .mainScreen
  | register => .signIn
  | logout => .signIn

end Attente

namespace Page

def restoId? : Page → Option String
  | restaurant id => some id
  | menu data => some data.id
  | categoryMenu data _ => some data.id
  | commande data => some data.id
  | facture data => some data.id
  | dialogNote id => some id
  | dialogCommande data => some data.id
  | dialogFacture data => some data.id
  | _ => none

/-- The pages that a `pushReplacement` puts over any other. -/
def base : Page → Bool
  | mainScreen => true
  | signIn => true
  | _ => false

def rang : Page → ℕ
  | signIn => 0
  | mainScreen => 0
  | signInScreen => 1
  | registerScreen => 1
  | listResto => 1
  | listRestoFav => 1
  | restaurant _ => 2
  | menu _ => 3
  | categoryMenu _ _ => 4
  | commande _ => 5
  | facture _ => 5
  | dialogNote _ => 6
  | dialogCommande _ => 6
  | dialogFacture _ => 6

def rubrique? : Page → Option (String × Rubrique)
  | categoryMenu data rubrique => some (data.id, rubrique)
  | _ => none

def panier? : Page → Option String
  | commande data => some data.id
  | _ => none

end Page

inductive Ouvre : Page → Page → Prop
  | signInScreen : Ouvre .signIn .signInScreen
  | registerScreen : Ouvre .signIn .registerScreen
  | listResto : Ouvre .mainScreen .listResto
  | listRestoFav : Ouvre .mainScreen .listRestoFav
  | item (id : String) : Ouvre .listResto (.restaurant id)
  | itemFav (id : String) : Ouvre .listRestoFav (.restaurant id)
  | menu (id : String) (data : RestoPassedInfo) (own : data.id = id) :
      Ouvre (.restaurant id) (.menu data)
  | commande (id : String) (data : RestoPassedInfo) (own : data.id = id) :
      Ouvre (.restaurant id) (.commande data)
  | facture (id : String) (data : RestoPassedInfo) (own : data.id = id) :
      Ouvre (.restaurant id) (.facture data)
  | noter (id : String) : Ouvre (.restaurant id) (.dialogNote id)
  | rubrique (data data' : RestoPassedInfo) (rubrique : Rubrique) (own : data'.id = data.id) :
      Ouvre (.menu data) (.categoryMenu data' rubrique)
  | panier (data data' : RestoPassedInfo) (rubrique : Rubrique) (own : data'.id = data.id) :
      Ouvre (.categoryMenu data rubrique) (.commande data')
  | valider (data : RestoPassedInfo) : Ouvre (.commande data) (.dialogCommande data)
  | payer (data : RestoPassedInfo) : Ouvre (.facture data) (.dialogFacture data)

theorem passer_id (id : String) (resto : Doc) (data : RestoPassedInfo)
    (passed : passer id resto = some data) : data.id = id := by
  simp only [passer, Option.bind_eq_bind, Option.bind_eq_some_iff, Option.pure_def,
    Option.some.injEq] at passed
  obtain ⟨montree, _, note, _, rfl⟩ := passed
  rfl

theorem ouvre_of_ouvrir (d : Appareil) (below above : Page) (touche : Touche)
    (opened : ouvrir d below touche = some above) : Ouvre below above := by
  unfold ouvrir at opened
  split at opened
  · cases opened
    exact .signInScreen
  · cases opened
    exact .registerScreen
  · cases opened
    exact .listResto
  · cases opened
    exact .listRestoFav
  · cases opened
    exact .item _
  · cases opened
    exact .itemFav _
  · obtain ⟨data, passed, rfl⟩ := Option.map_eq_some_iff.mp opened
    exact .menu _ data (passer_id _ _ data passed)
  · obtain ⟨data, passed, rfl⟩ := Option.map_eq_some_iff.mp opened
    exact .commande _ data (passer_id _ _ data passed)
  · obtain ⟨data, passed, rfl⟩ := Option.map_eq_some_iff.mp opened
    exact .facture _ data (passer_id _ _ data passed)
  · obtain ⟨montree, _, rfl⟩ := Option.map_eq_some_iff.mp opened
    exact .noter _
  · cases opened
    exact .rubrique _ _ _ rfl
  · cases opened
    exact .panier _ _ _ rfl
  · split at opened
    · cases opened
      exact .valider _
    · cases opened
  · cases opened
    exact .payer _
  · cases opened

theorem ouvre_rang (below above : Page) (opens : Ouvre below above) : below.rang < above.rang := by
  cases opens <;> simp [Page.rang]

theorem rang_le (page : Page) : page.rang ≤ 6 := by
  cases page <;> simp [Page.rang]

theorem ouvre_depuis (below above : Page) (opens : Ouvre below above) (id : String)
    (about : above.restoId? = some id) : below.restoId? = some id ∨ above = .restaurant id := by
  cases opens <;> simp_all [Page.restoId?]

theorem base_restoId? (page : Page) (base : page.base = true) : page.restoId? = none := by
  cases page <;> first | rfl | cases base

/-- A page was opened from the one below it, or was put in the place of one that was. -/
inductive Pose (below above : Page) : Prop
  | ouverte (opens : Ouvre below above)
  | remplacee (autre : Page) (opens : Ouvre below autre) (base : above.base = true)

theorem pose_remplacer (below above base : Page) (pose : Pose below above)
    (based : base.base = true) : Pose below base := by
  cases pose with
  | ouverte opens => exact .remplacee above opens based
  | remplacee autre opens _ => exact .remplacee autre opens based

theorem ouvre_of_pose (below above : Page) (pose : Pose below above)
    (inner : above.base = false) : Ouvre below above := by
  cases pose with
  | ouverte opens => exact opens
  | remplacee autre opens base =>
      rw [inner] at base
      cases base

def Posees (pages : List Page) : Prop := pages.IsChain (fun above below => Pose below above)

/-- Each route was opened from the one below it. -/
def Empilees (pages : List Page) : Prop := pages.IsChain (fun above below => Ouvre below above)

theorem posees_tail (page : Page) (below : List Page) (posees : Posees (page :: below)) :
    Posees below :=
  List.IsChain.tail posees

theorem posees_of_empilees (pages : List Page) (piled : Empilees pages) : Posees pages :=
  piled.imp (fun _ _ opens => .ouverte opens)

theorem pose_dessus (page : Page) (below : List Page) (posees : Posees (page :: below))
    (inner : Page) (member : inner ∈ below) : ∃ above, Pose inner above := by
  induction below generalizing page with
  | nil => cases member
  | cons next rest ih =>
      rcases List.mem_cons.mp member with rfl | further
      · exact ⟨page, (List.isChain_cons_cons.mp posees).1⟩
      · exact ih next (posees_tail page _ posees) further

theorem dialogue_au_sommet (page : Page) (below : List Page) (posees : Posees (page :: below))
    (data : RestoPassedInfo) : .dialogCommande data ∉ below := by
  intro member
  obtain ⟨above, pose⟩ := pose_dessus page below posees _ member
  cases pose with
  | ouverte opens => cases opens
  | remplacee autre opens base => cases opens

theorem restaurant_dessous (pages : List Page) (posees : Posees pages)
    (root : ∀ page ∈ pages.getLast?, page.base = true) (page : Page) (member : page ∈ pages)
    (id : String) (about : page.restoId? = some id) : .restaurant id ∈ pages := by
  induction pages generalizing page with
  | nil => cases member
  | cons top below ih =>
      cases below with
      | nil =>
          rw [List.mem_singleton] at member
          have none_ := base_restoId? top (root top rfl)
          rw [member, none_] at about
          cases about
      | cons next rest =>
          have lower := ih (posees_tail top _ posees) (by simpa using root)
          rcases List.mem_cons.mp member with rfl | inside
          · have inner : page.base = false := by
              by_contra based
              rw [base_restoId? page (by simpa using based)] at about
              cases about
            have opens := ouvre_of_pose next page (List.isChain_cons_cons.mp posees).1 inner
            rcases ouvre_depuis next page opens id about with further | here
            · exact List.mem_cons_of_mem page (lower next List.mem_cons_self further)
            · exact here ▸ List.mem_cons_self
          · exact List.mem_cons_of_mem top (lower page inside about)

section Empilees

variable (pages : List Page) (piled : Empilees pages)

include piled

theorem empilees_rang : pages.Pairwise (fun above below => below.rang < above.rang) := by
  have smaller : pages.IsChain (fun above below : Page => below.rang < above.rang) :=
    piled.imp (fun below above opens => ouvre_rang above below opens)
  have trans : IsTrans Page (fun above below : Page => below.rang < above.rang) :=
    ⟨fun _ _ _ first second => second.trans first⟩
  exact List.isChain_iff_pairwise.mp smaller

theorem meme_page (page page' : Page) (member : page ∈ pages) (member' : page' ∈ pages)
    (same : page.rang = page'.rang) : page = page' := by
  by_contra different
  have apart : pages.Pairwise (fun above below => above.rang ≠ below.rang) :=
    (empilees_rang pages piled).imp (fun below => below.ne')
  have symmetric : Std.Symm (fun above below : Page => above.rang ≠ below.rang) :=
    ⟨fun _ _ ne => ne.symm⟩
  exact apart.forall member member' different same

theorem length_filterMap_le {β : Type*} (f : Page → Option β) (rang : ℕ)
    (ranked : ∀ page b, f page = some b → page.rang = rang) : (pages.filterMap f).length ≤ 1 := by
  have alone : (pages.filterMap f).Pairwise (fun _ _ => False) := by
    apply (empilees_rang pages piled).filterMap
    intro above below climbs b first b' second
    rw [ranked above b first, ranked below b' second] at climbs
    exact absurd climbs (lt_irrefl rang)
  cases found : pages.filterMap f with
  | nil => exact Nat.zero_le 1
  | cons b rest =>
      cases rest with
      | nil => exact Nat.le_refl 1
      | cons b' others =>
          rw [found] at alone
          exact absurd (List.pairwise_cons.mp alone).1 (fun none_ => none_ b' List.mem_cons_self)

theorem length_le_sept : pages.length ≤ 7 := by
  have small : ∀ page below, pages = page :: below → below.length ≤ page.rang := by
    intro page below split
    induction below generalizing page pages with
    | nil => exact Nat.zero_le _
    | cons next rest ih =>
        rw [split] at piled
        have chain := List.isChain_cons_cons.mp piled
        have fewer := ih (next :: rest) chain.2 next rfl
        have climbs := ouvre_rang next page chain.1
        rw [List.length_cons]
        omega
  cases split : pages with
  | nil => exact Nat.zero_le 7
  | cons page below =>
      have few := small page below split
      have top := rang_le page
      rw [List.length_cons]
      omega

theorem un_restaurant (root : ∀ page ∈ pages.getLast?, page.base = true) (page page' : Page)
    (member : page ∈ pages) (member' : page' ∈ pages) (id id' : String)
    (about : page.restoId? = some id) (about' : page'.restoId? = some id') : id = id' := by
  have posees := posees_of_empilees pages piled
  have home := restaurant_dessous pages posees root page member id about
  have home' := restaurant_dessous pages posees root page' member' id' about'
  have same := meme_page pages piled (.restaurant id) (.restaurant id') home home' rfl
  exact Page.restaurant.inj same

end Empilees

/-- The routes opened since the last page of the kind `base` was put there, with that page. -/
def bloc : List Page → List Page
  | [] => []
  | page :: below => if page.base then [page] else page :: bloc below

theorem bloc_base (page : Page) (below : List Page) (base : page.base = true) :
    bloc (page :: below) = [page] := by
  rw [bloc, if_pos base]

theorem bloc_ouverte (page : Page) (below : List Page) (inner : page.base = false) :
    bloc (page :: below) = page :: bloc below := by
  rw [bloc, if_neg (by simp [inner])]

theorem head?_bloc (pages : List Page) : (bloc pages).head? = pages.head? := by
  cases pages with
  | nil => rfl
  | cons page below =>
      rw [bloc]
      split
      · rfl
      · rfl

theorem empilees_bloc (pages : List Page) (posees : Posees pages) : Empilees (bloc pages) := by
  induction pages with
  | nil => exact List.isChain_nil
  | cons page below ih =>
      cases inner : page.base with
      | true =>
          rw [bloc_base page below inner]
          exact List.isChain_singleton page
      | false =>
          rw [bloc_ouverte page below inner]
          have chain := List.isChain_cons.mp posees
          refine List.isChain_cons.mpr ⟨fun next first => ?_, ih chain.2⟩
          rw [head?_bloc] at first
          exact ouvre_of_pose next page (chain.1 next first) inner

theorem racine_bloc (pages : List Page) (root : ∀ page ∈ pages.getLast?, page.base = true) :
    ∀ page ∈ (bloc pages).getLast?, page.base = true := by
  induction pages with
  | nil => exact root
  | cons page below ih =>
      cases inner : page.base with
      | true =>
          rw [bloc_base page below inner]
          intro last here
          cases here
          exact inner
      | false =>
          rw [bloc_ouverte page below inner]
          cases below with
          | nil => exact root
          | cons next rest =>
              intro last here
              rw [List.getLast?_cons_of_ne_nil] at here
              · exact ih (by simpa using root) last here
              · intro none_
                have first := head?_bloc (next :: rest)
                rw [none_] at first
                cases first

end EWallet.Session
