import EWallet.Library.Decoding
import EWallet.Library.Firestore
import EWallet.Library.Machine

namespace EWallet.Commandes

open Firestore

structure MenuInfo where
  nom : String
  categorie : String
  prix : Number
  deriving DecidableEq

/-- The getter `prix` of a line is declared `int`: on a double it throws. -/
def MenuInfo.prixEntier (plat : MenuInfo) : Option ℤ :=
  match plat.prix with
  | .int n => some n
  | .double _ => none

/-- A line of the cart. Its price was read through the `int` getter. -/
structure CommandeNewVersion where
  nomMenu : String
  categorie : Option String
  prix : ℤ
  quantite : ℤ
  deriving DecidableEq, Inhabited

def CommandeNewVersion.changer (x : CommandeNewVersion) (f : ℤ → ℤ) : CommandeNewVersion :=
  { x with quantite := f x.quantite }

def categorieMenu : String → Option String
  | "Nos entrées" => some "entrees"
  | "Nos plats" => some "plats"
  | "Nos desserts" => some "desserts"
  | "Nos boissons" => some "boissons"
  | "Plat du jour" => some "plats du jour"
  | _ => none

inductive Rubrique where
  | platsDuJour
  | entrees
  | plats
  | desserts
  | boissons
  deriving DecidableEq

def Rubrique.titre : Rubrique → String
  | platsDuJour => "Les plats du jour"
  | entrees => "Nos entrées"
  | plats => "Nos plats"
  | desserts => "Nos desserts"
  | boissons => "Nos boissons"

def Rubrique.collection : Rubrique → String
  | platsDuJour => "plats du jour"
  | entrees => "entrees"
  | plats => "plats"
  | desserts => "desserts"
  | boissons => "boissons"

def buildListItem (rubrique : Rubrique) (document : Doc) : Option MenuInfo :=
  match document.field "nom", document.field "prix" with
  | .string nom, .number prix => some ⟨nom, rubrique.titre, prix⟩
  | _, _ => none

/-- An open category page: the dishes of its last build (none where the row could not be read)
and the counter `_quantite` that each row keeps by its position. -/
structure CategoryMenu where
  restoId : String
  rubrique : Rubrique
  plats : List (Option MenuInfo)
  compteurs : ℕ → ℤ

inductive Icone where
  | restaurant
  | roomServiceRounded
  | icecream
  | wineBarRounded
  | newReleasesRounded
  deriving DecidableEq

def iconCat2 : Option String → Option Icone
  | some "entrees" => some .restaurant
  | some "plats" => some .roomServiceRounded
  | some "desserts" => some .icecream
  | some "boissons" => some .wineBarRounded
  | some "plats du jour" => some .newReleasesRounded
  | _ => none

/-- A widget of the cart page: the index it was built with and the line object it shows. -/
structure MenuItemWidget where
  index : ℕ
  item : ℕ
  deriving DecidableEq

/-- An open cart page: the list it has built, the widgets on the screen since the last frame,
whether that frame shows 'Valider', and how many dialogs it has opened. -/
structure PageCommande where
  restoId : String
  listCommande2 : List MenuItemWidget
  affiches : List MenuItemWidget
  valider : Bool
  dialogues : ℕ

namespace PageCommande

def initState (listeCommande : List ℕ) : List MenuItemWidget :=
  listeCommande.mapIdx MenuItemWidget.mk

/-- The list that `buildListView` makes: it gives each widget the value of `iconCat2` for an
`IconData`, so a line whose category is a key of that map throws, and only null passes. -/
def generer (objets : ℕ → CommandeNewVersion) (listeCommande : List ℕ) :
    Option (List MenuItemWidget) :=
  (initState listeCommande).mapM (fun widget =>
    match iconCat2 (objets widget.item).categorie with
    | some _ => none
    | none => some widget)

/-- When it throws, the page keeps the list it had. -/
def buildListView (objets : ℕ → CommandeNewVersion) (listeCommande : List ℕ)
    (page : PageCommande) : PageCommande :=
  match generer objets listeCommande with
  | some liste => { page with listCommande2 := liste }
  | none => page

def construire (page : PageCommande) (listeCommande : List ℕ) : PageCommande :=
  { page with
    affiches := if listeCommande = [] then [] else page.listCommande2
    valider := listeCommande ≠ [] }

theorem generer_iff (objets : ℕ → CommandeNewVersion) (listeCommande : List ℕ)
    (liste : List MenuItemWidget) :
    generer objets listeCommande = some liste ↔
      (∀ r ∈ listeCommande, iconCat2 (objets r).categorie = none) ∧
        liste = initState listeCommande := by
  have passes : ∀ widget : MenuItemWidget, (match iconCat2 (objets widget.item).categorie with
      | some _ => none
      | none => some widget) = some widget ↔ iconCat2 (objets widget.item).categorie = none := by
    intro widget
    cases iconCat2 (objets widget.item).categorie <;> simp
  rw [generer, Decoding.mapM_test]
  · have lines : (∀ widget ∈ initState listeCommande,
        iconCat2 (objets widget.item).categorie = none) ↔
        ∀ r ∈ listeCommande, iconCat2 (objets r).categorie = none := by
      simp only [initState, List.forall_mem_iff_getElem, List.length_mapIdx, List.getElem_mapIdx]
    simp only [passes, lines]
  · intro widget made equal
    split at equal
    · cases equal
    · exact (Option.some.inj equal).symm

theorem buildListView_reussi (objets : ℕ → CommandeNewVersion) (listeCommande : List ℕ)
    (page : PageCommande) (plain : ∀ r ∈ listeCommande, iconCat2 (objets r).categorie = none) :
    page.buildListView objets listeCommande =
      { page with listCommande2 := initState listeCommande } := by
  have made := (generer_iff objets listeCommande _).mpr ⟨plain, rfl⟩
  simp only [buildListView, made]

theorem buildListView_exception (objets : ℕ → CommandeNewVersion) (listeCommande : List ℕ)
    (page : PageCommande) (r : ℕ) (member : r ∈ listeCommande)
    (categorised : iconCat2 (objets r).categorie ≠ none) :
    page.buildListView objets listeCommande = page := by
  have thrown : generer objets listeCommande = none := by
    apply Option.eq_none_iff_forall_ne_some.mpr
    intro liste made
    exact categorised (((generer_iff objets listeCommande liste).mp made).1 r member)
  simp only [buildListView, thrown]

theorem buildListView_eq (objets : ℕ → CommandeNewVersion) (listeCommande : List ℕ)
    (page : PageCommande) :
    ∃ liste, page.buildListView objets listeCommande = { page with listCommande2 := liste } := by
  unfold buildListView
  split
  · exact ⟨_, rfl⟩
  · exact ⟨page.listCommande2, rfl⟩

@[simp] theorem buildListView_restoId (objets : ℕ → CommandeNewVersion) (listeCommande : List ℕ)
    (page : PageCommande) : (page.buildListView objets listeCommande).restoId = page.restoId := by
  obtain ⟨liste, built⟩ := page.buildListView_eq objets listeCommande
  rw [built]

@[simp] theorem buildListView_dialogues (objets : ℕ → CommandeNewVersion)
    (listeCommande : List ℕ) (page : PageCommande) :
    (page.buildListView objets listeCommande).dialogues = page.dialogues := by
  obtain ⟨liste, built⟩ := page.buildListView_eq objets listeCommande
  rw [built]

end PageCommande

/-- The device: line objects by reference, the global list `listeCommande`, the open pages. -/
structure Appareil where
  objets : ℕ → CommandeNewVersion
  listeCommande : List ℕ
  menus : List CategoryMenu
  commandes : List PageCommande

def lancement : Appareil := ⟨fun _ => default, [], [], []⟩

namespace Appareil

def lignes (d : Appareil) : List CommandeNewVersion := d.listeCommande.map d.objets

def references (d : Appareil) : List ℕ :=
  d.listeCommande ++ d.commandes.flatMap (fun page =>
    page.listCommande2.map MenuItemWidget.item ++ page.affiches.map MenuItemWidget.item)

def nouveau (d : Appareil) : ℕ := d.references.foldr max 0 + 1

def modifier (d : Appareil) (r : ℕ) (f : ℤ → ℤ) : Appareil :=
  { d with objets := Function.update d.objets r ((d.objets r).changer f) }

/-- `contain.first`: the first line with the same name and the same category. -/
def contain (d : Appareil) (x : CommandeNewVersion) : Option ℕ :=
  d.listeCommande.find? (fun r =>
    (d.objets r).nomMenu = x.nomMenu ∧ (d.objets r).categorie = x.categorie)

def ajouter (d : Appareil) (x : CommandeNewVersion) : Appareil :=
  match d.contain x with
  | none =>
      { d with
        objets := Function.update d.objets d.nouveau x
        listeCommande := d.listeCommande ++ [d.nouveau] }
  | some r => d.modifier r (· + 1)

/-- A menu row that shows its buttons: building it reads the price through the `int` getter, so
the row of a dish with any other price is an error widget. -/
def rangee (d : Appareil) (page row : ℕ) : Option (CategoryMenu × MenuInfo × ℤ) := do
  let menu ← d.menus[page]?
  let plat ← (← menu.plats[row]?)
  let prix ← plat.prixEntier
  return (menu, plat, prix)

def compter (d : Appareil) (page row : ℕ) (f : ℤ → ℤ) : Appareil :=
  { d with menus := d.menus.modify page (fun menu =>
      { menu with compteurs := Function.update menu.compteurs row (f (menu.compteurs row)) }) }

def menuPlus (d : Appareil) (page row : ℕ) : Appareil :=
  match d.rangee page row with
  | none => d
  | some (menu, plat, prix) =>
      (d.compter page row (· + 1)).ajouter
        ⟨plat.nom, categorieMenu plat.categorie, prix, menu.compteurs row + 1⟩

def menuMoins (d : Appareil) (page row : ℕ) : Appareil :=
  match d.rangee page row with
  | none => d
  | some _ => d.compter page row (fun q => if q > 0 then q - 1 else q)

/-- A new snapshot of the menu: rows keep their state by position, those that are gone or become an
error widget lose it. -/
def menuRecu (d : Appareil) (page : ℕ) (plats : List (Option MenuInfo)) : Appareil :=
  { d with menus := d.menus.modify page (fun menu =>
      { menu with
        plats := plats
        compteurs := fun i => if plats[i]?.join.isSome then menu.compteurs i else 0 }) }

def ouvrirCommande (d : Appareil) (restoId : String) : Appareil :=
  let page : PageCommande := ⟨restoId, PageCommande.initState d.listeCommande, [], false, 0⟩
  { d with commandes := d.commandes ++ [page.construire d.listeCommande] }

def frame (d : Appareil) (page : ℕ) : Appareil :=
  { d with commandes := d.commandes.modify page (fun p => p.construire d.listeCommande) }

def affiche (d : Appareil) (page k : ℕ) : Option MenuItemWidget := do
  (← d.commandes[page]?).affiches[k]?

def panierPlus (d : Appareil) (page k : ℕ) : Appareil :=
  match d.affiche page k with
  | none => d
  | some widget => d.modifier widget.item (· + 1)

/-- The listener of the deletion: `removeAt` throws when the index is out of range, and the line is
gone before `buildListView` can throw. -/
def supprimer (d : Appareil) (page index : ℕ) : Appareil :=
  if index < d.listeCommande.length then
    { d with
      listeCommande := d.listeCommande.eraseIdx index
      commandes := d.commandes.modify page
        (PageCommande.buildListView d.objets (d.listeCommande.eraseIdx index)) }
  else d

def panierMoins (d : Appareil) (page k : ℕ) : Appareil :=
  match d.affiche page k with
  | none => d
  | some widget =>
      if (d.objets widget.item).quantite > 1 then d.modifier widget.item (· - 1)
      else d.supprimer page widget.index

def valider (d : Appareil) (page : ℕ) : Appareil :=
  { d with commandes := d.commandes.modify page (fun p =>
      if p.valider then { p with dialogues := p.dialogues + 1 } else p) }

def dialogue (d : Appareil) (page : ℕ) : Option PageCommande :=
  (d.commandes[page]?).filter (fun p => 0 < p.dialogues)

/-- What the 'Oui' handler does to the device, whatever becomes of its writes. -/
def oui (d : Appareil) (page : ℕ) : Appareil :=
  match d.dialogue page with
  | none => d
  | some _ =>
      { d with
        listeCommande := []
        commandes := d.commandes.modify page (PageCommande.buildListView d.objets []) }

end Appareil

inductive Action where
  | ouvrirMenu (restoId : String) (rubrique : Rubrique)
  | menuRecu (page : ℕ) (plats : List (Option MenuInfo))
  | fermerMenu (page : ℕ)
  | menuPlus (page row : ℕ)
  | menuMoins (page row : ℕ)
  | ouvrirCommande (restoId : String)
  | frame (page : ℕ)
  | fermerCommande (page : ℕ)
  | panierPlus (page k : ℕ)
  | panierMoins (page k : ℕ)
  | valider (page : ℕ)
  | oui (page : ℕ) (horloge : ℕ → ℤ)

def step (d : Appareil) : Action → Appareil
  | .ouvrirMenu restoId rubrique =>
      { d with menus := d.menus ++ [⟨restoId, rubrique, [], fun _ => 0⟩] }
  | .menuRecu page plats => d.menuRecu page plats
  | .fermerMenu page => { d with menus := d.menus.eraseIdx page }
  | .menuPlus page row => d.menuPlus page row
  | .menuMoins page row => d.menuMoins page row
  | .ouvrirCommande restoId => d.ouvrirCommande restoId
  | .frame page => d.frame page
  | .fermerCommande page => { d with commandes := d.commandes.eraseIdx page }
  | .panierPlus page k => d.panierPlus page k
  | .panierMoins page k => d.panierMoins page k
  | .valider page => d.valider page
  | .oui page _ => d.oui page

namespace Appareil

theorem nouveau_frais (d : Appareil) (r : ℕ) (member : r ∈ d.references) : r ≠ d.nouveau := by
  have bound : r ≤ d.references.foldr max 0 := Selection.le_foldr_max id d.references r member
  simp only [nouveau]
  omega

theorem nouveau_not_mem (d : Appareil) : d.nouveau ∉ d.listeCommande := by
  intro member
  exact d.nouveau_frais d.nouveau (List.mem_append_left _ member) rfl

theorem objets_nouveau (d : Appareil) (x : CommandeNewVersion) (r : ℕ)
    (member : r ∈ d.listeCommande) : Function.update d.objets d.nouveau x r = d.objets r := by
  apply Function.update_of_ne
  intro same
  exact d.nouveau_not_mem (same ▸ member)

def demande (menu : CategoryMenu) (plat : MenuInfo) (prix : ℤ) (row : ℕ) : CommandeNewVersion :=
  ⟨plat.nom, categorieMenu plat.categorie, prix, menu.compteurs row + 1⟩

theorem contain_mem (d : Appareil) (x : CommandeNewVersion) (r : ℕ) (found : d.contain x = some r) :
    r ∈ d.listeCommande ∧ (d.objets r).nomMenu = x.nomMenu ∧
      (d.objets r).categorie = x.categorie := by
  refine ⟨List.mem_of_find?_eq_some found, ?_⟩
  simpa using List.find?_some found

theorem menuPlus_rien (d : Appareil) (page row : ℕ) (hidden : d.rangee page row = none) :
    d.menuPlus page row = d := by
  simp only [menuPlus, hidden]

theorem menuPlus_eq (d : Appareil) (page row : ℕ) (menu : CategoryMenu) (plat : MenuInfo)
    (prix : ℤ) (shown : d.rangee page row = some (menu, plat, prix)) :
    d.menuPlus page row = (d.compter page row (· + 1)).ajouter (demande menu plat prix row) := by
  simp only [menuPlus, shown]
  rfl

theorem menuPlus_nouvelle (d : Appareil) (page row : ℕ) (menu : CategoryMenu) (plat : MenuInfo)
    (prix : ℤ) (shown : d.rangee page row = some (menu, plat, prix))
    (absent : d.contain (demande menu plat prix row) = none) :
    (d.menuPlus page row).listeCommande = d.listeCommande ++ [d.nouveau] ∧
      (d.menuPlus page row).objets =
        Function.update d.objets d.nouveau (demande menu plat prix row) := by
  have absent' : (d.compter page row (· + 1)).contain (demande menu plat prix row) = none := absent
  rw [d.menuPlus_eq page row menu plat prix shown, ajouter, absent']
  exact ⟨rfl, rfl⟩

theorem menuPlus_accrue (d : Appareil) (page row : ℕ) (menu : CategoryMenu) (plat : MenuInfo)
    (prix : ℤ) (shown : d.rangee page row = some (menu, plat, prix)) (r : ℕ)
    (found : d.contain (demande menu plat prix row) = some r) :
    (d.menuPlus page row).listeCommande = d.listeCommande ∧
      (d.menuPlus page row).objets = Function.update d.objets r ((d.objets r).changer (· + 1)) := by
  have found' : (d.compter page row (· + 1)).contain (demande menu plat prix row) = some r := found
  rw [d.menuPlus_eq page row menu plat prix shown, ajouter, found']
  exact ⟨rfl, rfl⟩

theorem menuPlus_menus (d : Appareil) (page row : ℕ) (menu : CategoryMenu) (plat : MenuInfo)
    (prix : ℤ) (shown : d.rangee page row = some (menu, plat, prix)) :
    (d.menuPlus page row).menus = (d.compter page row (· + 1)).menus := by
  rw [d.menuPlus_eq page row menu plat prix shown, ajouter]
  split
  · rfl
  · rfl

theorem supprimer_liste (d : Appareil) (page index : ℕ) :
    (d.supprimer page index).listeCommande = d.listeCommande.eraseIdx index := by
  unfold supprimer
  split
  · rfl
  · rename_i outside
    rw [List.eraseIdx_of_length_le (Nat.le_of_not_lt outside)]

theorem supprimer_garde (d : Appareil) (page index : ℕ) :
    (d.supprimer page index).objets = d.objets ∧ (d.supprimer page index).menus = d.menus := by
  unfold supprimer
  split
  · exact ⟨rfl, rfl⟩
  · exact ⟨rfl, rfl⟩

theorem panierMoins_liste (d : Appareil) (page k : ℕ) :
    (d.panierMoins page k).listeCommande.Sublist d.listeCommande := by
  unfold panierMoins
  split
  · exact List.Sublist.refl _
  · split
    · exact List.Sublist.refl _
    · rw [supprimer_liste]
      exact List.eraseIdx_sublist _ _

theorem panierPlus_liste (d : Appareil) (page k : ℕ) :
    (d.panierPlus page k).listeCommande = d.listeCommande := by
  unfold panierPlus
  split
  · rfl
  · rfl

theorem menuMoins_liste (d : Appareil) (page row : ℕ) :
    (d.menuMoins page row).listeCommande = d.listeCommande := by
  unfold menuMoins
  split
  · rfl
  · rfl

end Appareil

theorem liste_step (d : Appareil) (act : Action) (other : ∀ page row, act ≠ .menuPlus page row) :
    (step d act).listeCommande.Sublist d.listeCommande := by
  cases act with
  | menuPlus page row => exact absurd rfl (other page row)
  | menuMoins page row => rw [step, Appareil.menuMoins_liste]
  | panierPlus page k => rw [step, Appareil.panierPlus_liste]
  | panierMoins page k => exact d.panierMoins_liste page k
  | oui page horloge =>
      simp only [step, Appareil.oui]
      split
      · exact List.Sublist.refl _
      · exact List.nil_sublist _
  | ouvrirMenu restoId rubrique => exact List.Sublist.refl _
  | menuRecu page plats => exact List.Sublist.refl _
  | fermerMenu page => exact List.Sublist.refl _
  | ouvrirCommande restoId => exact List.Sublist.refl _
  | frame page => exact List.Sublist.refl _
  | fermerCommande page => exact List.Sublist.refl _
  | valider page => exact List.Sublist.refl _

end EWallet.Commandes
