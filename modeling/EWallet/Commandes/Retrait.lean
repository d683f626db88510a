import EWallet.Commandes.Panier

namespace EWallet.Commandes

/-- What a `-` on a widget of the cart page is for: from a line of several units it takes one, a
line with one unit that is still in the cart it removes, and nothing else changes. -/
structure Retire (d d' : Appareil) (item : ℕ) : Prop where
  plusieurs : 1 < (d.objets item).quantite → d'.listeCommande = d.listeCommande ∧
    d'.objets = Function.update d.objets item ((d.objets item).changer (· - 1))
  une : (d.objets item).quantite = 1 → item ∈ d.listeCommande →
    d'.listeCommande = d.listeCommande.erase item ∧ d'.objets = d.objets

theorem eraseIdx_eq_erase_iff {α : Type*} [DecidableEq α] (l : List α) (nodup : l.Nodup) (a : α)
    (member : a ∈ l) (index : ℕ) : l.eraseIdx index = l.erase a ↔ l[index]? = some a := by
  constructor
  · intro same
    by_contra elsewhere
    obtain ⟨position, here⟩ := List.getElem?_of_mem member
    have kept : a ∈ l.eraseIdx index := by
      rw [List.mem_eraseIdx_iff_getElem?]
      refine ⟨position, ?_, here⟩
      intro equal
      exact elsewhere (equal ▸ here)
    rw [same, nodup.mem_erase_iff] at kept
    exact kept.1 rfl
  · intro here
    obtain ⟨bound, at_⟩ := List.getElem?_eq_some_iff.mp here
    rw [List.erase_eq_eraseIdx_of_idxOf]
    rw [← at_]
    exact nodup.idxOf_getElem index bound

theorem retire_iff (d : Appareil) (nodup : d.listeCommande.Nodup) (page k : ℕ)
    (widget : MenuItemWidget) (shown : d.affiche page k = some widget) :
    Retire d (d.panierMoins page k) widget.item ↔
      ((d.objets widget.item).quantite = 1 → widget.item ∈ d.listeCommande →
        d.listeCommande[widget.index]? = some widget.item) := by
  simp only [Appareil.panierMoins, shown]
  constructor
  · intro retire single member
    have removed := (retire.une single member).1
    rw [if_neg (by omega), Appareil.supprimer_liste] at removed
    exact (eraseIdx_eq_erase_iff _ nodup _ member _).mp removed
  · intro current
    constructor
    · intro several
      rw [if_pos several]
      exact ⟨rfl, rfl⟩
    · intro single member
      rw [if_neg (by omega), Appareil.supprimer_liste, (d.supprimer_garde page _).1]
      exact ⟨(eraseIdx_eq_erase_iff _ nodup _ member _).mpr (current single member), rfl⟩

/-- A `-` on a line with one unit comes from a widget whose index is still that of its line. -/
def AJour (d : Appareil) : Action → Prop
  | .panierMoins page k => ∀ widget, d.affiche page k = some widget →
      (d.objets widget.item).quantite = 1 → widget.item ∈ d.listeCommande →
        d.listeCommande[widget.index]? = some widget.item
  | _ => True

/-- In a run, every `-` on the cart page does what it is for if and only if none is tapped on a
widget whose line has moved in the cart since the widget was built. -/
theorem removal_removes_its_line_iff (actions : List Action) :
    (∀ front page k back, actions = front ++ .panierMoins page k :: back →
      ∀ widget, (Machine.run step lancement front).affiche page k = some widget →
        Retire (Machine.run step lancement front)
          (step (Machine.run step lancement front) (.panierMoins page k)) widget.item) ↔
      Machine.Along step AJour lancement actions := by
  rw [Machine.along_iff_prefixes]
  constructor
  · intro removals front act back split
    cases act with
    | panierMoins page k =>
        intro widget shown
        rw [← retire_iff _ (ordonne_run front).nodup page k widget shown]
        exact removals front page k back split widget shown
    | _ => trivial
  · intro along front page k back split widget shown
    apply (retire_iff _ (ordonne_run front).nodup page k widget shown).mpr
    exact along front (.panierMoins page k) back split widget shown

/-- A removal that leaves a line with a category in the cart makes `buildListView` throw: the frames
that follow show the widgets built before it. -/
theorem affiche_apres_exception (d : Appareil) (page index k r : ℕ)
    (member : r ∈ d.listeCommande.eraseIdx index)
    (categorised : iconCat2 (d.objets r).categorie ≠ none) :
    ((d.supprimer page index).frame page).affiche page k = (d.frame page).affiche page k := by
  have pages : (d.supprimer page index).commandes = d.commandes := by
    have throws : PageCommande.buildListView d.objets (d.listeCommande.eraseIdx index) = id := by
      funext p
      exact p.buildListView_exception d.objets _ r member categorised
    unfold Appareil.supprimer
    split
    · simp only [throws, List.modify_id]
    · rfl
  have left : (d.supprimer page index).listeCommande ≠ [] := by
    rw [d.supprimer_liste page index]
    exact List.ne_nil_of_mem member
  have before : d.listeCommande ≠ [] := by
    intro none_
    rw [none_] at member
    cases member
  have built : ∀ p : PageCommande,
      p.construire (d.supprimer page index).listeCommande = p.construire d.listeCommande := by
    intro p
    simp [PageCommande.construire, left, before]
  simp only [Appareil.affiche, Appareil.frame, pages, built]

def troisPlats : List Action :=
  [.ouvrirMenu "R" .plats, .menuRecu 0 [some ⟨"Riz", "Nos plats", .int 1000⟩,
      some ⟨"Foutou", "Nos plats", .int 1200⟩, some ⟨"Attieke", "Nos plats", .int 800⟩],
    .menuPlus 0 0, .menuPlus 0 1, .menuPlus 0 2, .ouvrirCommande "R"]

/-- A `-` on the first line, a frame and a `-` on the second: the third one goes. -/
theorem second_tap_removes_other_line :
    let d := Machine.run step lancement (troisPlats ++ [.panierMoins 0 0, .frame 0])
    d.affiche 0 1 = some ⟨1, 2⟩ ∧
      d.lignes = [⟨"Foutou", some "plats", 1200, 1⟩, ⟨"Attieke", some "plats", 800, 1⟩] ∧
      (step d (.panierMoins 0 1)).lignes = [⟨"Foutou", some "plats", 1200, 1⟩] ∧
      ¬ Retire d (step d (.panierMoins 0 1)) 2 := by
  intro d
  have before : d.listeCommande = [2, 3] := by decide +kernel
  have after : (step d (.panierMoins 0 1)).listeCommande = [2] := by decide +kernel
  refine ⟨by decide +kernel, by decide +kernel, by decide +kernel, fun retire => ?_⟩
  have removed := (retire.une (by decide +kernel) (by decide +kernel)).1
  rw [before, after] at removed
  exact absurd removed (by decide)

end EWallet.Commandes
