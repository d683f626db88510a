import EWallet.Commandes.Prix

namespace EWallet.Commandes

open Firestore

/-- The step from `d` to `d'` puts units of a dish into the cart, and whatever becomes of their
number, their order is read back as the dish: name, collection, price and quantity. -/
def Revient (d d' : Appareil) (nom collection : String) (prix : Number) : Prop :=
  ∃ r, Touchee d d' r ∧
    ∀ (f : ℤ → ℤ) (user : Utilisateur) (restoId : String) (maintenant : ℤ)
      (fromTimestamp : ℤ → ℤ) (now : ℤ) (id : String),
      (testClient fromTimestamp now
        (id, document user restoId maintenant ((d'.objets r).changer f))).map CommandeEnCours.plat =
          some ⟨some nom, some collection, some prix, some (f (d'.objets r).quantite)⟩

theorem categorieMenu_titre (rubrique : Rubrique) (collection : String) :
    categorieMenu rubrique.titre = some collection ↔
      rubrique ≠ .platsDuJour ∧ collection = rubrique.collection := by
  cases rubrique with
  | platsDuJour => simp [Rubrique.titre, categorieMenu]
  | entrees => simp [Rubrique.titre, Rubrique.collection, categorieMenu, eq_comm]
  | plats => simp [Rubrique.titre, Rubrique.collection, categorieMenu, eq_comm]
  | desserts => simp [Rubrique.titre, Rubrique.collection, categorieMenu, eq_comm]
  | boissons => simp [Rubrique.titre, Rubrique.collection, categorieMenu, eq_comm]

theorem buildListItem_eq (rubrique : Rubrique) (data : Doc) (nom : String) (prix : Number)
    (named : data.field "nom" = .string nom) (priced : data.field "prix" = .number prix) :
    buildListItem rubrique data = some ⟨nom, rubrique.titre, prix⟩ := by
  simp only [buildListItem, named, priced]

theorem rangee_eq (d : Appareil) (page row : ℕ) (menu : CategoryMenu) (plat : MenuInfo)
    (opened : d.menus[page]? = some menu) (listed : menu.plats[row]? = some (some plat)) :
    d.rangee page row = plat.prixEntier.map (fun prix => (menu, plat, prix)) := by
  cases price : plat.prixEntier with
  | none => simp [Appareil.rangee, opened, listed, price]
  | some n => simp [Appareil.rangee, opened, listed, price]

theorem testClient_changer (fromTimestamp : ℤ → ℤ) (now maintenant : ℤ) (id restoId : String)
    (user : Utilisateur) (commande : CommandeNewVersion) (f : ℤ → ℤ) :
    (testClient fromTimestamp now (id, document user restoId maintenant
      (commande.changer f))).map CommandeEnCours.plat =
        some ⟨some commande.nomMenu, commande.categorie, some (.int commande.prix),
          some (f commande.quantite)⟩ := by
  rw [testClient_document]
  rfl

/-- A dish that is picked on a category page comes back from its order as it was on the page if
and only if the page is not 'Les plats du jour', its price is an integer, and the cart does not
hold the dish at another price. -/
theorem dish_comes_back_iff (d : Appareil) (page row : ℕ) (menu : CategoryMenu) (data : Doc)
    (nom : String) (prix : Number) (opened : d.menus[page]? = some menu)
    (listed : menu.plats[row]? = some (buildListItem menu.rubrique data))
    (named : data.field "nom" = .string nom) (priced : data.field "prix" = .number prix) :
    Revient d (d.menuPlus page row) nom menu.rubrique.collection prix ↔
      menu.rubrique ≠ .platsDuJour ∧ ∃ n, prix = .int n ∧
        ∀ r, d.contain (Appareil.demande menu ⟨nom, menu.rubrique.titre, prix⟩ n row) = some r →
          (d.objets r).prix = n := by
  rw [buildListItem_eq menu.rubrique data nom prix named priced] at listed
  have rangee := rangee_eq d page row menu _ opened listed
  cases prix with
  | double x =>
      -- the row is an error widget: there is no button to tap
      have hidden : d.rangee page row = none := rangee
      refine iff_of_false ?_ (by simp)
      intro comes
      obtain ⟨r, touched, _⟩ := comes
      rw [d.menuPlus_rien page row hidden] at touched
      rcases touched.2 with absent | changed
      · exact absent touched.1
      · exact changed rfl
  | int n =>
      have shown : d.rangee page row = some (menu, ⟨nom, menu.rubrique.titre, .int n⟩, n) := rangee
      obtain ⟨r, only, name, category, price⟩ := touchee_menuPlus d page row menu _ n shown
      have collection := categorieMenu_titre menu.rubrique menu.rubrique.collection
      constructor
      · intro comes
        obtain ⟨other, touched, reads⟩ := comes
        rw [(only other).mp touched] at reads
        have line := reads id ⟨"", none⟩ "" 0 id 0 ""
        rw [testClient_changer, Option.some.injEq, MenuInfoCommande.mk.injEq] at line
        obtain ⟨_, same, cost, _⟩ := line
        rw [category, collection] at same
        rw [Option.some.injEq, Number.int.injEq] at cost
        exact ⟨same.1, n, rfl, price.mp cost⟩
      · intro both
        obtain ⟨known, m, integer, stable⟩ := both
        cases integer
        refine ⟨r, (only r).mpr rfl, ?_⟩
        intro f user restoId maintenant fromTimestamp now id
        rw [testClient_changer, name, category, collection.mpr ⟨known, rfl⟩, price.mpr stable]

def troisPages : Appareil := Machine.run step lancement
  [.ouvrirMenu "R" .plats, .menuRecu 0 [some ⟨"Riz", "Nos plats", .int 1000⟩],
    .ouvrirMenu "R" .platsDuJour, .menuRecu 1 [some ⟨"Kedjenou", "Les plats du jour", .int 2500⟩],
    .ouvrirMenu "R" .desserts,
    .menuRecu 2 [some ⟨"Glace", "Nos desserts", .double (.ofRat (3001 / 2))⟩]]

def platRiz : Doc := Doc.ofFields [("nom", .string "Riz"), ("prix", .number (.int 1000))]

theorem riz_comes_back :
    Revient troisPages (troisPages.menuPlus 0 0) "Riz" "plats" (.int 1000) := by
  apply (dish_comes_back_iff troisPages 0 0 _ platRiz "Riz" (.int 1000) rfl rfl rfl rfl).mpr
  refine ⟨by decide, 1000, rfl, ?_⟩
  intro r found
  cases found

/-- A dish of the day loses its category on the way, and a dish with another price than an
integer cannot be picked at all. -/
theorem dish_of_the_day_loses_category :
    (troisPages.menuPlus 1 0).lignes = [⟨"Kedjenou", none, 2500, 1⟩] ∧
      (troisPages.menuPlus 2 0).lignes = [] ∧
      ¬ Revient troisPages (troisPages.menuPlus 1 0) "Kedjenou" "plats du jour" (.int 2500) := by
  refine ⟨by decide +kernel, by decide +kernel, fun comes => ?_⟩
  obtain ⟨r, touched, reads⟩ := comes
  have line : r = 1 := by
    have list : (troisPages.menuPlus 1 0).listeCommande = [1] := by decide +kernel
    have member := touched.1
    rw [list] at member
    exact List.mem_singleton.mp member
  have none_ : ((troisPages.menuPlus 1 0).objets 1).categorie = none := by decide +kernel
  have order := reads id ⟨"", none⟩ "" 0 id 0 ""
  rw [testClient_changer, Option.some.injEq, MenuInfoCommande.mk.injEq, line, none_] at order
  exact absurd order.2.1 (by simp)

end EWallet.Commandes
