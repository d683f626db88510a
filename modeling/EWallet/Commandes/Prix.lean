import EWallet.Commandes.Confirmation
import EWallet.Commandes.Panier

namespace EWallet.Commandes

open Firestore

/-- The device with, for each line object, the prices that the rows displayed at the `+` taps
behind it, and the orders sent, each with those of its line. -/
structure Releve where
  appareil : Appareil
  vus : ℕ → List ℤ
  envoyes : List (Ajout × List ℤ)

def noter (d : Appareil) (vus : ℕ → List ℤ) : Action → ℕ → List ℤ
  | .menuPlus page row =>
      match d.rangee page row with
      | none => vus
      | some (menu, plat, prix) =>
          match d.contain (Appareil.demande menu plat prix row) with
          | none => Function.update vus d.nouveau [prix]
          | some r => Function.update vus r (vus r ++ [prix])
  | _ => vus

def envoisNotes (user : Utilisateur) (d : Appareil) (vus : ℕ → List ℤ) :
    Action → List (Ajout × List ℤ)
  | .oui page horloge =>
      match d.dialogue page with
      | none => []
      | some p => d.listeCommande.mapIdx (fun i r =>
          (⟨p.restoId, document user p.restoId (horloge i) (d.objets r)⟩, vus r))
  | _ => []

def relever (user : Utilisateur) (s : Releve) (act : Action) : Releve where
  appareil := step s.appareil act
  vus := noter s.appareil s.vus act
  envoyes := s.envoyes ++ envoisNotes user s.appareil s.vus act

def sansReleve : Releve := ⟨lancement, fun _ => [], []⟩

def Touchee (d d' : Appareil) (r : ℕ) : Prop :=
  r ∈ d'.listeCommande ∧ (r ∉ d.listeCommande ∨ d'.objets r ≠ d.objets r)

def Conforme (d d' : Appareil) (plat : MenuInfo) (prix : ℤ) : Prop :=
  ∀ r, Touchee d d' r → (d'.objets r).nomMenu = plat.nom ∧
    (∃ id, categorieMenu plat.categorie = some id ∧ (d'.objets r).categorie = some id) ∧
    (d'.objets r).prix = prix

/-- Every order counts units that were picked at its price, and so does every line of the cart. -/
structure PrixFideles (s : Releve) : Prop where
  envoyes : ∀ e ∈ s.envoyes, ∀ p ∈ e.2, e.1.data.number? "prix" = some (.int p)
  lignes : ∀ r ∈ s.appareil.listeCommande, ∀ p ∈ s.vus r, p = (s.appareil.objets r).prix

/-- A `+` on a menu is on a page whose title is a key of `categorieMenu`, and finds no line of the
same name and category at another price. -/
def SansEcart (d : Appareil) : Action → Prop
  | .menuPlus page row => ∀ menu plat prix, d.rangee page row = some (menu, plat, prix) →
      (categorieMenu plat.categorie).isSome ∧
        ∀ r, d.contain (Appareil.demande menu plat prix row) = some r → (d.objets r).prix = prix
  | _ => True

theorem document_prix (user : Utilisateur) (restoId : String) (maintenant : ℤ)
    (commande : CommandeNewVersion) :
    (document user restoId maintenant commande).number? "prix" = some (.int commande.prix) := by
  simp [document, Doc.number?, Doc.ofFields, List.lookup_cons]

theorem touchee_iff (d d' : Appareil) (r : ℕ) (x : CommandeNewVersion)
    (objets : d'.objets = Function.update d.objets r x)
    (liste : ∀ other ∈ d'.listeCommande, other ∉ d.listeCommande → other = r)
    (touched : Touchee d d' r) (other : ℕ) : Touchee d d' other ↔ other = r := by
  constructor
  · rintro ⟨member, absent | changed⟩
    · exact liste other member absent
    · by_contra different
      rw [objets, Function.update_of_ne different] at changed
      exact changed rfl
  · rintro rfl
    exact touched

theorem touchee_menuPlus (d : Appareil) (page row : ℕ) (menu : CategoryMenu) (plat : MenuInfo)
    (prix : ℤ) (shown : d.rangee page row = some (menu, plat, prix)) :
    ∃ r, (∀ other, Touchee d (d.menuPlus page row) other ↔ other = r) ∧
      ((d.menuPlus page row).objets r).nomMenu = plat.nom ∧
      ((d.menuPlus page row).objets r).categorie = categorieMenu plat.categorie ∧
      (((d.menuPlus page row).objets r).prix = prix ↔
        ∀ old, d.contain (Appareil.demande menu plat prix row) = some old →
          (d.objets old).prix = prix) := by
  cases found : d.contain (Appareil.demande menu plat prix row) with
  | none =>
      obtain ⟨liste, objets⟩ := d.menuPlus_nouvelle page row menu plat prix shown found
      have new : (d.menuPlus page row).objets d.nouveau = Appareil.demande menu plat prix row := by
        rw [objets, Function.update_self]
      have touched : Touchee d (d.menuPlus page row) d.nouveau :=
        ⟨by simp [liste], Or.inl d.nouveau_not_mem⟩
      refine ⟨d.nouveau, touchee_iff d _ _ _ objets ?_ touched, by rw [new]; rfl,
        by rw [new]; rfl, ?_⟩
      · intro other member absent
        rw [liste, List.mem_append, List.mem_singleton] at member
        exact member.resolve_left absent
      · rw [new]
        exact iff_of_true rfl (by simp)
  | some r =>
      obtain ⟨liste, objets⟩ := d.menuPlus_accrue page row menu plat prix shown r found
      obtain ⟨inside, name, category⟩ := d.contain_mem _ r found
      have line : (d.menuPlus page row).objets r = (d.objets r).changer (· + 1) := by
        rw [objets, Function.update_self]
      have touched : Touchee d (d.menuPlus page row) r := by
        refine ⟨by rw [liste]; exact inside, Or.inr ?_⟩
        intro same
        have count := congrArg CommandeNewVersion.quantite same
        rw [line, changer_quantite] at count
        omega
      refine ⟨r, touchee_iff d _ _ _ objets ?_ touched, by rw [line]; exact name,
        by rw [line]; exact category, ?_⟩
      · intro other member absent
        rw [liste] at member
        exact absurd member absent
      · rw [line, changer_prix]
        simp

theorem conforme_iff (d : Appareil) (page row : ℕ) (menu : CategoryMenu) (plat : MenuInfo)
    (prix : ℤ) (shown : d.rangee page row = some (menu, plat, prix)) :
    Conforme d (d.menuPlus page row) plat prix ↔
      (categorieMenu plat.categorie).isSome ∧
        ∀ r, d.contain (Appareil.demande menu plat prix row) = some r →
          (d.objets r).prix = prix := by
  obtain ⟨r, only, name, category, price⟩ := touchee_menuPlus d page row menu plat prix shown
  rw [← price, Option.isSome_iff_exists]
  constructor
  · intro conforme
    obtain ⟨_, ⟨id, known, _⟩, same⟩ := conforme r ((only r).mpr rfl)
    exact ⟨⟨id, known⟩, same⟩
  · intro both other touched
    obtain ⟨id, known⟩ := both.1
    rw [(only other).mp touched]
    exact ⟨name, ⟨id, known, category.trans known⟩, both.2⟩

theorem prix_effet (d d' : Appareil) (effet : Effet d d') (r : ℕ) (member : r ∈ d.listeCommande) :
    (d'.objets r).prix = (d.objets r).prix := by
  cases effet with
  | intact liste objets => rw [objets]
  | nouvelle menu plat prix row opened absent liste objets =>
      rw [objets, d.objets_nouveau _ r member]
  | compte item f positive liste objets =>
      rw [objets]
      by_cases same : r = item
      · rw [same, Function.update_self, changer_prix]
      · rw [Function.update_of_ne same]
  | retrait index liste objets => rw [objets]
  | vide liste objets => rw [objets]

theorem prixFideles_menuPlus (user : Utilisateur) (s : Releve) (fideles : PrixFideles s)
    (page row : ℕ) (stable : SansEcart s.appareil (.menuPlus page row)) :
    PrixFideles (relever user s (.menuPlus page row)) := by
  have sent : (relever user s (.menuPlus page row)).envoyes = s.envoyes := by
    simp only [relever, envoisNotes, List.append_nil]
  refine ⟨sent ▸ fideles.envoyes, ?_⟩
  cases shown : s.appareil.rangee page row with
  | none =>
      have still := s.appareil.menuPlus_rien page row shown
      simp only [relever, step, noter, shown, still]
      exact fideles.lignes
  | some rangee =>
      obtain ⟨menu, plat, prix⟩ := rangee
      have prices := (stable menu plat prix shown).2
      intro r member p seen
      simp only [relever, step, noter, shown] at member seen ⊢
      cases found : s.appareil.contain (Appareil.demande menu plat prix row) with
      | none =>
          obtain ⟨liste, objets⟩ :=
            s.appareil.menuPlus_nouvelle page row menu plat prix shown found
          simp only [found] at seen
          rw [liste, List.mem_append, List.mem_singleton] at member
          rw [objets]
          by_cases same : r = s.appareil.nouveau
          · rw [same, Function.update_self, List.mem_singleton] at seen
            rw [same, Function.update_self, seen]
            rfl
          · rw [Function.update_of_ne same] at seen ⊢
            exact fideles.lignes r (member.resolve_right same) p seen
      | some r' =>
          obtain ⟨liste, objets⟩ :=
            s.appareil.menuPlus_accrue page row menu plat prix shown r' found
          simp only [found] at seen
          rw [liste] at member
          rw [objets]
          by_cases same : r = r'
          · rw [same, Function.update_self, List.mem_append, List.mem_singleton] at seen
            rw [same, Function.update_self, changer_prix]
            rcases seen with old | new
            · exact fideles.lignes r' (same ▸ member) p old
            · rw [new, prices r' found]
          · rw [Function.update_of_ne same] at seen ⊢
            exact fideles.lignes r member p seen

theorem prixFideles_relever (user : Utilisateur) (s : Releve) (act : Action)
    (fideles : PrixFideles s) (stable : SansEcart s.appareil act) :
    PrixFideles (relever user s act) := by
  have kept : (∀ page row, act ≠ .menuPlus page row) → noter s.appareil s.vus act = s.vus →
      ∀ r ∈ (step s.appareil act).listeCommande, ∀ p ∈ noter s.appareil s.vus act r,
        p = ((step s.appareil act).objets r).prix := by
    intro other unmarked r member p seen
    rw [unmarked] at seen
    have inside := (liste_step s.appareil act other).subset member
    rw [prix_effet s.appareil _ (effet_step s.appareil act) r inside]
    exact fideles.lignes r inside p seen
  have quiet : (∀ page row, act ≠ .menuPlus page row) → noter s.appareil s.vus act = s.vus →
      envoisNotes user s.appareil s.vus act = [] → PrixFideles (relever user s act) := by
    intro other unmarked unsent
    refine ⟨?_, kept other unmarked⟩
    simp only [relever, unsent, List.append_nil]
    exact fideles.envoyes
  cases act with
  | menuPlus page row => exact prixFideles_menuPlus user s fideles page row stable
  | oui page horloge =>
      refine ⟨?_, kept (by simp) rfl⟩
      intro e sent p seen
      simp only [relever, List.mem_append] at sent
      rcases sent with old | new
      · exact fideles.envoyes e old p seen
      · cases shown : s.appareil.dialogue page with
        | none =>
            simp only [envoisNotes, shown] at new
            cases new
        | some opened =>
            simp only [envoisNotes, shown, List.mem_mapIdx] at new
            obtain ⟨i, bound, rfl⟩ := new
            rw [fideles.lignes _ (List.getElem_mem bound) p seen]
            exact document_prix user _ _ _
  | ouvrirMenu restoId rubrique => exact quiet (by simp) rfl rfl
  | menuRecu page plats => exact quiet (by simp) rfl rfl
  | fermerMenu page => exact quiet (by simp) rfl rfl
  | menuMoins page row => exact quiet (by simp) rfl rfl
  | ouvrirCommande restoId => exact quiet (by simp) rfl rfl
  | frame page => exact quiet (by simp) rfl rfl
  | fermerCommande page => exact quiet (by simp) rfl rfl
  | panierPlus page k => exact quiet (by simp) rfl rfl
  | panierMoins page k => exact quiet (by simp) rfl rfl
  | valider page => exact quiet (by simp) rfl rfl

/-- In a run, every `+` on a menu goes to a line with the name, category and price of its row, and
every order carries the price displayed for each unit it counts, if and only if no `+` finds its
dish in the cart at another price and none is on a page without a category id. -/
theorem units_at_displayed_price_iff (user : Utilisateur) (actions : List Action) :
    ((∀ front page row back, actions = front ++ .menuPlus page row :: back →
      ∀ menu plat prix,
        (Machine.run step lancement front).rangee page row = some (menu, plat, prix) →
        Conforme (Machine.run step lancement front)
          (step (Machine.run step lancement front) (.menuPlus page row)) plat prix) ∧
      ∀ front back, actions = front ++ back →
        PrixFideles (Machine.run (relever user) sansReleve front)) ↔
      Machine.Along step SansEcart lancement actions := by
  constructor
  · intro both
    rw [Machine.along_iff_prefixes]
    intro front act back split
    cases act with
    | menuPlus page row =>
        intro menu plat prix shown
        rw [← conforme_iff _ page row menu plat prix shown]
        exact both.1 front page row back split menu plat prix shown
    | _ => trivial
  · intro along
    have prefixes := (Machine.along_iff_prefixes step SansEcart lancement actions).mp along
    constructor
    · intro front page row back split menu plat prix shown
      exact (conforme_iff _ page row menu plat prix shown).mpr
        (prefixes front (.menuPlus page row) back split menu plat prix shown)
    · intro front back split
      have followed : Machine.Along (relever user) (fun s act => SansEcart s.appareil act)
          sansReleve front := by
        rw [Machine.along_project (relever user) step Releve.appareil (fun _ _ => rfl)]
        rw [split, Machine.along_append] at along
        exact along.1
      exact Machine.run_invariant (relever user) PrixFideles _
        (fun s act held ok => prixFideles_relever user s act held ok) sansReleve front
        ⟨fun e sent => absurd sent List.not_mem_nil,
          fun r member => absurd member List.not_mem_nil⟩ followed

/-- The price of a dish is edited between two taps: the order counts both units at the old one. -/
theorem edited_price_not_charged :
    let d := Machine.run step lancement
      [.ouvrirMenu "R" .plats, .menuRecu 0 [some ⟨"Riz", "Nos plats", .int 1000⟩], .menuPlus 0 0,
        .menuRecu 0 [some ⟨"Riz", "Nos plats", .int 1500⟩]]
    (step d (.menuPlus 0 0)).lignes = [⟨"Riz", some "plats", 1000, 2⟩] ∧
      ¬ Conforme d (step d (.menuPlus 0 0)) ⟨"Riz", "Nos plats", .int 1500⟩ 1500 := by
  intro d
  refine ⟨by decide +kernel, fun conforme => ?_⟩
  have touched : Touchee d (step d (.menuPlus 0 0)) 1 :=
    ⟨by decide +kernel, Or.inr (by decide +kernel)⟩
  have price : ((step d (.menuPlus 0 0)).objets 1).prix = 1000 := by decide +kernel
  have same := (conforme 1 touched).2.2
  rw [price] at same
  exact absurd same (by decide)

end EWallet.Commandes
