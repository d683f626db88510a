import EWallet.Commandes.Panier

namespace EWallet.Commandes

namespace Appareil

def quantiteDe (d : Appareil) (x : CommandeNewVersion) : ℤ :=
  ((d.lignes.filter (fun y => MemePlat y x)).map CommandeNewVersion.quantite).sum

theorem lignes_nouvelle (d d' : Appareil) (x : CommandeNewVersion)
    (liste : d'.listeCommande = d.listeCommande ++ [d.nouveau])
    (objets : d'.objets = Function.update d.objets d.nouveau x) : d'.lignes = d.lignes ++ [x] := by
  calc d'.lignes
      = (d.listeCommande ++ [d.nouveau]).map (Function.update d.objets d.nouveau x) := by
        rw [lignes, liste, objets]
    _ = d.listeCommande.map (Function.update d.objets d.nouveau x) ++ [x] := by
        rw [List.map_append, List.map_singleton, Function.update_self]
    _ = d.lignes ++ [x] := by
        rw [lignes, List.map_congr_left (d.objets_nouveau x)]

theorem contain_of_mem (d : Appareil) (ordonne : Ordonne d) (x : CommandeNewVersion) (r : ℕ)
    (member : r ∈ d.listeCommande) (same : MemePlat (d.objets r) x) : d.contain x = some r := by
  cases found : d.contain x with
  | none => exact absurd same ((d.contain_none x).mp found r member)
  | some r' =>
      obtain ⟨inside, key⟩ := d.contain_mem x r' found
      rw [ordonne.uniques r' inside r member (MemePlat.trans key same.symm)]

theorem filter_unique {α : Type*} (p : α → Bool) (l : List α) (a : α) (nodup : l.Nodup)
    (member : a ∈ l) (holds : p a = true) (only : ∀ b ∈ l, p b = true → b = a) :
    l.filter p = [a] := by
  apply List.perm_singleton.mp
  apply (List.perm_ext_iff_of_nodup (nodup.filter p) (List.nodup_singleton a)).mpr
  intro b
  rw [List.mem_filter, List.mem_singleton]
  constructor
  · exact fun both => only b both.1 both.2
  · rintro rfl
    exact ⟨member, holds⟩

theorem quantiteDe_contain (d : Appareil) (ordonne : Ordonne d) (x : CommandeNewVersion) :
    d.quantiteDe x = ((d.contain x).map (fun r => (d.objets r).quantite)).getD 0 := by
  rw [quantiteDe, lignes, List.filter_map]
  cases found : d.contain x with
  | none =>
      have absent := (d.contain_none x).mp found
      rw [List.filter_eq_nil_iff.mpr (by simpa using absent)]
      rfl
  | some r =>
      obtain ⟨inside, key⟩ := d.contain_mem x r found
      rw [filter_unique _ _ r ordonne.nodup inside (decide_eq_true key)]
      · simp
      · intro r' member same
        have here : MemePlat (d.objets r') x := by simpa using same
        exact ordonne.uniques r' member r inside (here.trans (MemePlat.symm key))

end Appareil

/-- A tap ordered one unit of the dish of `x` and touched no other line. -/
structure UneUnite (d d' : Appareil) (x : CommandeNewVersion) : Prop where
  plat : d'.quantiteDe x = d.quantiteDe x + 1
  autres : d'.lignes.filter (fun y => ¬ MemePlat y x) = d.lignes.filter (fun y => ¬ MemePlat y x)

theorem autres_compte (d d' : Appareil) (x : CommandeNewVersion) (r : ℕ) (f : ℤ → ℤ)
    (same : MemePlat (d.objets r) x) (liste : d'.listeCommande = d.listeCommande)
    (objets : d'.objets = Function.update d.objets r ((d.objets r).changer f)) :
    d'.lignes.filter (fun y => ¬ MemePlat y x) = d.lignes.filter (fun y => ¬ MemePlat y x) := by
  have here : MemePlat (d'.objets r) x := by
    rw [objets, Function.update_self]
    exact same
  have there : ∀ other, other ≠ r → d'.objets other = d.objets other := by
    intro other different
    rw [objets, Function.update_of_ne different]
  have selects : ∀ other ∈ d.listeCommande, decide (¬ MemePlat (d'.objets other) x) =
      decide (¬ MemePlat (d.objets other) x) := by
    intro other _
    by_cases equal : other = r
    · simp [equal, here, same]
    · rw [there other equal]
  rw [Appareil.lignes, Appareil.lignes, liste, List.filter_map, List.filter_map]
  simp only [Function.comp_def]
  rw [List.filter_congr selects]
  apply List.map_congr_left
  intro other member
  apply there
  intro equal
  have apart : ¬ MemePlat (d.objets other) x := by simpa using (List.mem_filter.mp member).2
  exact apart (equal ▸ same)

theorem une_unite_iff (d : Appareil) (ordonne : Ordonne d) (page row : ℕ) (menu : CategoryMenu)
    (plat : MenuInfo) (prix : ℤ) (shown : d.rangee page row = some (menu, plat, prix)) :
    UneUnite d (d.menuPlus page row) (Appareil.demande menu plat prix row) ↔
      (d.contain (Appareil.demande menu plat prix row) = none → menu.compteurs row = 0) := by
  have ordonne' : Ordonne (d.menuPlus page row) := ordonne_step d (.menuPlus page row) ordonne
  have before := d.quantiteDe_contain ordonne (Appareil.demande menu plat prix row)
  cases found : d.contain (Appareil.demande menu plat prix row) with
  | none =>
      obtain ⟨liste, objets⟩ := d.menuPlus_nouvelle page row menu plat prix shown found
      rw [found] at before
      have taken : (d.menuPlus page row).quantiteDe (Appareil.demande menu plat prix row) =
          menu.compteurs row + 1 := by
        have line := (d.menuPlus page row).contain_of_mem ordonne'
          (Appareil.demande menu plat prix row) d.nouveau (by simp [liste])
          (by rw [objets, Function.update_self]; exact ⟨rfl, rfl⟩)
        rw [Appareil.quantiteDe_contain _ ordonne', line, Option.map_some, Option.getD_some, objets,
          Function.update_self]
        rfl
      constructor
      · intro unit _
        have raised := unit.plat
        rw [taken, before] at raised
        simpa using raised
      · intro zero
        refine ⟨?_, ?_⟩
        · rw [taken, before, zero rfl]
          rfl
        · simp [d.lignes_nouvelle _ _ liste objets, MemePlat]
  | some r =>
      obtain ⟨liste, objets⟩ := d.menuPlus_accrue page row menu plat prix shown r found
      obtain ⟨inside, key⟩ := d.contain_mem _ r found
      rw [found] at before
      refine iff_of_true ⟨?_, ?_⟩ (by simp)
      · have line := (d.menuPlus page row).contain_of_mem ordonne'
          (Appareil.demande menu plat prix row) r (by rw [liste]; exact inside)
          (by rw [objets, Function.update_self]; exact key)
        rw [Appareil.quantiteDe_contain _ ordonne', line, before]
        simp [objets]
      · exact autres_compte d _ _ r (· + 1) key liste objets

/-- A `+` on the row of a dish without a line finds the counter of the row at zero. -/
def Accorde (d : Appareil) : Action → Prop
  | .menuPlus page row => ∀ menu plat prix, d.rangee page row = some (menu, plat, prix) →
      d.contain (Appareil.demande menu plat prix row) = none → menu.compteurs row = 0
  | _ => True

/-- In a run, every tap on a `+` orders exactly one unit of its dish if and only if no tap on a
dish without a line finds its counter above zero. -/
theorem one_tap_one_unit_iff (actions : List Action) :
    (∀ front page row back, actions = front ++ .menuPlus page row :: back →
      ∀ menu plat prix,
        (Machine.run step lancement front).rangee page row = some (menu, plat, prix) →
        UneUnite (Machine.run step lancement front)
          (step (Machine.run step lancement front) (.menuPlus page row))
          (Appareil.demande menu plat prix row)) ↔
      Machine.Along step Accorde lancement actions := by
  rw [Machine.along_iff_prefixes]
  constructor
  · intro units front act back split
    cases act with
    | menuPlus page row =>
        intro menu plat prix shown
        rw [← une_unite_iff _ (ordonne_run front) page row menu plat prix shown]
        exact units front page row back split menu plat prix shown
    | _ => trivial
  · intro along front page row back split menu plat prix shown
    apply (une_unite_iff _ (ordonne_run front) page row menu plat prix shown).mpr
    exact along front (.menuPlus page row) back split menu plat prix shown

/-- A dish is picked once, removed on the cart page and picked again on the page still open: the
second tap orders two units. -/
theorem picked_again_orders_two :
    let d := Machine.run step lancement
      [.ouvrirMenu "R" .plats, .menuRecu 0 [some ⟨"Riz", "Nos plats", .int 1000⟩], .menuPlus 0 0,
        .ouvrirCommande "R", .panierMoins 0 0]
    let riz : CommandeNewVersion := ⟨"Riz", some "plats", 1000, 2⟩
    d.lignes = [] ∧ (step d (.menuPlus 0 0)).lignes = [riz] ∧
      ¬ UneUnite d (step d (.menuPlus 0 0)) riz := by
  intro d riz
  have before : d.quantiteDe riz = 0 := by decide +kernel
  have after : (step d (.menuPlus 0 0)).quantiteDe riz = 2 := by decide +kernel
  refine ⟨by decide +kernel, by decide +kernel, fun unit => ?_⟩
  have raised := unit.plat
  rw [before, after] at raised
  exact absurd raised (by decide)

namespace Appareil

def affichee (d : Appareil) (page row : ℕ) : Option ℤ :=
  (d.menus[page]?).map (fun menu => menu.compteurs row)

theorem rangee_menus (d d' : Appareil) (page row : ℕ) (same : d'.menus = d.menus) :
    d'.rangee page row = d.rangee page row := by
  simp only [rangee, same]

theorem affichee_compter (d : Appareil) (page row : ℕ) (f : ℤ → ℤ) :
    (d.compter page row f).affichee page row = (d.affichee page row).map f := by
  cases opened : d.menus[page]? with
  | none => simp [affichee, compter, opened]
  | some menu => simp [affichee, compter, opened]

theorem rangee_compter (d : Appareil) (page row : ℕ) (f : ℤ → ℤ) (menu : CategoryMenu)
    (plat : MenuInfo) (prix : ℤ) (shown : d.rangee page row = some (menu, plat, prix)) :
    (d.compter page row f).rangee page row = some ({ menu with
      compteurs := Function.update menu.compteurs row (f (menu.compteurs row)) }, plat, prix) := by
  obtain ⟨opened, listed, entier⟩ := d.rangee_menu page row menu plat prix shown
  have price : plat.prixEntier = some prix := by simp [MenuInfo.prixEntier, entier]
  simp [rangee, compter, opened, listed, price]

theorem affichee_menuPlus (d : Appareil) (page row : ℕ) (menu : CategoryMenu) (plat : MenuInfo)
    (prix : ℤ) (shown : d.rangee page row = some (menu, plat, prix)) :
    (d.menuPlus page row).affichee page row = some (menu.compteurs row + 1) := by
  have opened := (d.rangee_menu page row menu plat prix shown).1
  have counted := d.affichee_compter page row (· + 1)
  rw [affichee, d.menuPlus_menus page row menu plat prix shown, ← affichee, counted, affichee,
    opened]
  rfl

theorem affichee_plus_moins (d : Appareil) (page row : ℕ) (menu : CategoryMenu) (plat : MenuInfo)
    (prix : ℤ) (shown : d.rangee page row = some (menu, plat, prix))
    (positive : 0 ≤ menu.compteurs row) :
    ((d.menuPlus page row).menuMoins page row).affichee page row = d.affichee page row := by
  have opened := (d.rangee_menu page row menu plat prix shown).1
  have again : (d.menuPlus page row).rangee page row =
      some ({ menu with
        compteurs := Function.update menu.compteurs row (menu.compteurs row + 1) },
        plat, prix) := by
    rw [rangee_menus _ _ page row (d.menuPlus_menus page row menu plat prix shown)]
    exact d.rangee_compter page row (· + 1) menu plat prix shown
  have back : (if menu.compteurs row + 1 > 0 then menu.compteurs row + 1 - 1
      else menu.compteurs row + 1) = menu.compteurs row := by
    rw [if_pos (by omega)]
    omega
  simp only [menuMoins, again]
  rw [affichee_compter, d.affichee_menuPlus page row menu plat prix shown, Option.map_some, back,
    affichee, opened]
  rfl

theorem lignes_menuMoins (d : Appareil) (page row : ℕ) :
    (d.menuMoins page row).lignes = d.lignes := by
  unfold menuMoins
  split
  · rfl
  · rfl

theorem lignes_menuPlus_ne (d : Appareil) (page row : ℕ) (menu : CategoryMenu) (plat : MenuInfo)
    (prix : ℤ) (shown : d.rangee page row = some (menu, plat, prix)) :
    (d.menuPlus page row).lignes ≠ d.lignes := by
  intro same
  cases found : d.contain (demande menu plat prix row) with
  | none =>
      obtain ⟨liste, objets⟩ := d.menuPlus_nouvelle page row menu plat prix shown found
      rw [d.lignes_nouvelle _ _ liste objets] at same
      simp at same
  | some r =>
      obtain ⟨liste, objets⟩ := d.menuPlus_accrue page row menu plat prix shown r found
      rw [lignes, lignes, liste, objets] at same
      have line := List.map_inj_left.mp same r (d.contain_mem _ r found).1
      rw [Function.update_self] at line
      have counted := congrArg CommandeNewVersion.quantite line
      rw [changer_quantite] at counted
      omega

end Appareil

/-- From every reachable state, a `+` and a `-` on a row bring back the quantity the row displays,
and never the cart: the `-` of a menu leaves the cart alone. -/
theorem minus_never_undoes_plus (actions : List Action) (page row : ℕ) (menu : CategoryMenu)
    (plat : MenuInfo) (prix : ℤ)
    (shown : (Machine.run step lancement actions).rangee page row = some (menu, plat, prix)) :
    let d := Machine.run step lancement actions
    let d' := step (step d (.menuPlus page row)) (.menuMoins page row)
    d'.affichee page row = d.affichee page row ∧ d'.lignes ≠ d.lignes := by
  intro d d'
  have opened := List.mem_of_getElem? (d.rangee_menu page row menu plat prix shown).1
  refine ⟨d.affichee_plus_moins page row menu plat prix shown
    ((ordonne_run actions).compteurs menu opened row), ?_⟩
  have lignes : d'.lignes = (d.menuPlus page row).lignes := Appareil.lignes_menuMoins _ page row
  rw [lignes]
  exact d.lignes_menuPlus_ne page row menu plat prix shown

def menuRiz : List Action :=
  [.ouvrirMenu "R" .plats, .menuRecu 0 [some ⟨"Riz", "Nos plats", .int 1000⟩]]

theorem riz_stays_in_cart :
    (step (step (Machine.run step lancement menuRiz) (.menuPlus 0 0)) (.menuMoins 0 0)).lignes ≠
      (Machine.run step lancement menuRiz).lignes :=
  (minus_never_undoes_plus menuRiz 0 0 _ ⟨"Riz", "Nos plats", .int 1000⟩ 1000 rfl).2

theorem plus_minus_leaves_line :
    let d := Machine.run step lancement menuRiz
    let d' := step (step d (.menuPlus 0 0)) (.menuMoins 0 0)
    d.affichee 0 0 = some 0 ∧ d'.affichee 0 0 = some 0 ∧ d.lignes = [] ∧
      d'.lignes = [⟨"Riz", some "plats", 1000, 1⟩] := by
  decide +kernel

end EWallet.Commandes
