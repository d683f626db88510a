import EWallet.Commandes.Livraison

namespace EWallet.Commandes

open Firestore

/-- The device with, for each line object, the restaurants of the `+` taps that made it, the
first tap first, and the orders sent, each with those of its line. -/
structure Suivi where
  appareil : Appareil
  taps : ℕ → List String
  envoyes : List (Ajout × List String)

def marquer (d : Appareil) (taps : ℕ → List String) : Action → ℕ → List String
  | .menuPlus page row =>
      match d.rangee page row with
      | none => taps
      | some (menu, plat, prix) =>
          match d.contain (Appareil.demande menu plat prix row) with
          | none => Function.update taps d.nouveau [menu.restoId]
          | some r => Function.update taps r (taps r ++ [menu.restoId])
  | _ => taps

def envois (user : Utilisateur) (d : Appareil) (taps : ℕ → List String) :
    Action → List (Ajout × List String)
  | .oui page horloge =>
      match d.dialogue page with
      | none => []
      | some p => d.listeCommande.mapIdx (fun i r =>
          (⟨p.restoId, document user p.restoId (horloge i) (d.objets r)⟩, taps r))
  | _ => []

def tracer (user : Utilisateur) (s : Suivi) (act : Action) : Suivi where
  appareil := step s.appareil act
  taps := marquer s.appareil s.taps act
  envoyes := s.envoyes ++ envois user s.appareil s.taps act

def sansTap : Suivi := ⟨lancement, fun _ => [], []⟩

theorem envois_ajouts (user : Utilisateur) (d : Appareil) (taps : ℕ → List String) (act : Action) :
    (envois user d taps act).map Prod.fst = ajouts user d act := by
  cases act with
  | oui page horloge =>
      cases shown : d.dialogue page with
      | none => simp [envois, ajouts, shown]
      | some p =>
          simp only [envois, ajouts, shown, confirmer, Appareil.lignes]
          apply List.ext_getElem?
          intro i
          simp [Function.comp_def]
  | ouvrirMenu restoId rubrique => rfl
  | menuRecu page plats => rfl
  | fermerMenu page => rfl
  | menuPlus page row => rfl
  | menuMoins page row => rfl
  | ouvrirCommande restoId => rfl
  | frame page => rfl
  | fermerCommande page => rfl
  | panierPlus page k => rfl
  | panierMoins page k => rfl
  | valider page => rfl

/-- Orders come from taps on the menu of the restaurant they are sent to, and no line of the
cart mixes the taps of two restaurants. -/
structure Fideles (s : Suivi) : Prop where
  envoyes : ∀ e ∈ s.envoyes, e.2 ≠ [] ∧ ∀ t ∈ e.2, t = e.1.restoId
  lignes : ∀ r ∈ s.appareil.listeCommande, s.taps r ≠ [] ∧
    ∃ restoId, ∀ t ∈ s.taps r, t = restoId

def Suivi.origine (s : Suivi) (r : ℕ) : Option String := (s.taps r).head?

/-- A `+` on a menu finds no line of the same name and category that was created at another
restaurant, and an 'Oui' finds no line at all that was. -/
def SansMelange (s : Suivi) : Action → Prop
  | .menuPlus page row => ∀ menu plat prix r,
      s.appareil.rangee page row = some (menu, plat, prix) →
      s.appareil.contain (Appareil.demande menu plat prix row) = some r →
      s.origine r = some menu.restoId
  | .oui page _ => ∀ p, s.appareil.dialogue page = some p →
      ∀ r ∈ s.appareil.listeCommande, s.origine r = some p.restoId
  | _ => True

theorem origine_eq (s : Suivi) (r : ℕ) (restoId : String) (some_ : s.taps r ≠ [])
    (same : ∀ t ∈ s.taps r, t = restoId) : s.origine r = some restoId := by
  cases taps : s.taps r with
  | nil => exact absurd taps some_
  | cons first rest =>
      rw [Suivi.origine, taps, List.head?_cons, same first (by rw [taps]; simp)]

theorem taps_of_origine (s : Suivi) (fideles : Fideles s) (r : ℕ) (restoId : String)
    (member : r ∈ s.appareil.listeCommande) (origin : s.origine r = some restoId) :
    s.taps r ≠ [] ∧ ∀ t ∈ s.taps r, t = restoId := by
  obtain ⟨some_, resto, same⟩ := fideles.lignes r member
  rw [origine_eq s r resto some_ same, Option.some.injEq] at origin
  exact ⟨some_, origin ▸ same⟩

theorem fideles_of_sublist (s s' : Suivi) (fideles : Fideles s) (taps : s'.taps = s.taps)
    (envoyes : s'.envoyes = s.envoyes)
    (liste : s'.appareil.listeCommande.Sublist s.appareil.listeCommande) : Fideles s' where
  envoyes := by
    rw [envoyes]
    exact fideles.envoyes
  lignes r member := by
    rw [taps]
    exact fideles.lignes r (liste.subset member)

theorem fideles_creer (s s' : Suivi) (fideles : Fideles s) (r : ℕ) (restoId : String)
    (fresh : r ∉ s.appareil.listeCommande) (taps : s'.taps = Function.update s.taps r [restoId])
    (envoyes : s'.envoyes = s.envoyes)
    (liste : s'.appareil.listeCommande = s.appareil.listeCommande ++ [r]) : Fideles s' where
  envoyes := by
    rw [envoyes]
    exact fideles.envoyes
  lignes other member := by
    rw [liste, List.mem_append, List.mem_singleton] at member
    rw [taps]
    rcases member with old | new
    · have different : other ≠ r := by
        intro same
        exact fresh (same ▸ old)
      rw [Function.update_of_ne different]
      exact fideles.lignes other old
    · rw [new, Function.update_self]
      exact ⟨by simp, restoId, by simp⟩

theorem fideles_grossir (s s' : Suivi) (fideles : Fideles s) (r : ℕ) (restoId : String)
    (member : r ∈ s.appareil.listeCommande)
    (taps : s'.taps = Function.update s.taps r (s.taps r ++ [restoId]))
    (envoyes : s'.envoyes = s.envoyes)
    (liste : s'.appareil.listeCommande = s.appareil.listeCommande) :
    Fideles s' ↔ s.origine r = some restoId := by
  constructor
  · intro after
    obtain ⟨_, resto, same⟩ := after.lignes r (liste ▸ member)
    rw [taps, Function.update_self] at same
    rw [same restoId (by simp)]
    exact origine_eq s r resto (fideles.lignes r member).1
      (fun t old => same t (List.mem_append_left _ old))
  · intro origin
    have old := taps_of_origine s fideles r restoId member origin
    refine ⟨envoyes ▸ fideles.envoyes, ?_⟩
    intro other inside
    rw [liste] at inside
    rw [taps]
    by_cases same : other = r
    · rw [same, Function.update_self]
      refine ⟨by simp, restoId, ?_⟩
      intro t tap
      rcases List.mem_append.mp tap with before | now
      · exact old.2 t before
      · exact List.mem_singleton.mp now
    · rw [Function.update_of_ne same]
      exact fideles.lignes other inside

theorem fideles_menuPlus (user : Utilisateur) (s : Suivi) (fideles : Fideles s) (page row : ℕ) :
    Fideles (tracer user s (.menuPlus page row)) ↔ SansMelange s (.menuPlus page row) := by
  have sent : (tracer user s (.menuPlus page row)).envoyes = s.envoyes := by
    simp only [tracer, envois, List.append_nil]
  cases shown : s.appareil.rangee page row with
  | none =>
      refine iff_of_true ?_ ?_
      · apply fideles_of_sublist s _ fideles _ sent
        · rw [tracer, step, s.appareil.menuPlus_rien page row shown]
        · simp only [tracer, marquer, shown]
      · intro menu plat prix r found
        rw [shown] at found
        cases found
  | some rangee =>
      obtain ⟨menu, plat, prix⟩ := rangee
      cases found : s.appareil.contain (Appareil.demande menu plat prix row) with
      | none =>
          have liste := (s.appareil.menuPlus_nouvelle page row menu plat prix shown found).1
          refine iff_of_true ?_ ?_
          · apply fideles_creer s _ fideles s.appareil.nouveau menu.restoId
              s.appareil.nouveau_not_mem _ sent liste
            simp only [tracer, marquer, shown, found]
          · intro menu' plat' prix' r shown' found'
            rw [shown] at shown'
            cases shown'
            rw [found] at found'
            cases found'
      | some r =>
          have liste := (s.appareil.menuPlus_accrue page row menu plat prix shown r found).1
          have marked : (tracer user s (.menuPlus page row)).taps =
              Function.update s.taps r (s.taps r ++ [menu.restoId]) := by
            simp only [tracer, marquer, shown, found]
          rw [fideles_grossir s _ fideles r menu.restoId (s.appareil.contain_mem _ r found).1 marked
            sent liste]
          constructor
          · intro origin menu' plat' prix' r' shown' found'
            rw [shown] at shown'
            cases shown'
            rw [found] at found'
            cases found'
            exact origin
          · intro alone
            exact alone menu plat prix r shown found

theorem fideles_oui (user : Utilisateur) (s : Suivi) (fideles : Fideles s) (page : ℕ)
    (horloge : ℕ → ℤ) :
    Fideles (tracer user s (.oui page horloge)) ↔ SansMelange s (.oui page horloge) := by
  cases shown : s.appareil.dialogue page with
  | none =>
      refine iff_of_true ?_ ?_
      · apply fideles_of_sublist s _ fideles
        · rfl
        · simp only [tracer, envois, shown, List.append_nil]
        · exact liste_step s.appareil _ (by simp)
      · intro p found
        rw [shown] at found
        cases found
  | some p =>
      have emptied : (tracer user s (.oui page horloge)).appareil.listeCommande = [] := by
        simp only [tracer, step, Appareil.oui, shown]
      constructor
      · intro after p' found r member
        rw [shown] at found
        cases found
        obtain ⟨i, bound, at_⟩ := List.getElem_of_mem member
        have sent : ((⟨p.restoId, document user p.restoId (horloge i) (s.appareil.objets r)⟩,
            s.taps r) : Ajout × List String) ∈ (tracer user s (.oui page horloge)).envoyes := by
          simp only [tracer, envois, shown, List.mem_append, List.mem_mapIdx]
          exact Or.inr ⟨i, bound, by rw [at_]⟩
        obtain ⟨some_, same⟩ := after.envoyes _ sent
        exact origine_eq s r p.restoId some_ same
      · intro alone
        refine ⟨?_, ?_⟩
        · intro e sent
          simp only [tracer, envois, shown, List.mem_append, List.mem_mapIdx] at sent
          rcases sent with old | ⟨i, bound, rfl⟩
          · exact fideles.envoyes e old
          · exact taps_of_origine s fideles _ p.restoId (List.getElem_mem bound)
              (alone p shown _ (List.getElem_mem bound))
        · intro r member
          rw [emptied] at member
          cases member

theorem fideles_tracer (user : Utilisateur) (s : Suivi) (act : Action) (fideles : Fideles s) :
    Fideles (tracer user s act) ↔ SansMelange s act := by
  have quiet : (∀ page row, act ≠ .menuPlus page row) → marquer s.appareil s.taps act = s.taps →
      envois user s.appareil s.taps act = [] → Fideles (tracer user s act) := by
    intro other marked sent
    apply fideles_of_sublist s _ fideles marked
    · simp only [tracer, sent, List.append_nil]
    · exact liste_step s.appareil act other
  cases act with
  | menuPlus page row => exact fideles_menuPlus user s fideles page row
  | oui page horloge => exact fideles_oui user s fideles page horloge
  | ouvrirMenu restoId rubrique => exact iff_of_true (quiet (by simp) rfl rfl) trivial
  | menuRecu page plats => exact iff_of_true (quiet (by simp) rfl rfl) trivial
  | fermerMenu page => exact iff_of_true (quiet (by simp) rfl rfl) trivial
  | menuMoins page row => exact iff_of_true (quiet (by simp) rfl rfl) trivial
  | ouvrirCommande restoId => exact iff_of_true (quiet (by simp) rfl rfl) trivial
  | frame page => exact iff_of_true (quiet (by simp) rfl rfl) trivial
  | fermerCommande page => exact iff_of_true (quiet (by simp) rfl rfl) trivial
  | panierPlus page k => exact iff_of_true (quiet (by simp) rfl rfl) trivial
  | panierMoins page k => exact iff_of_true (quiet (by simp) rfl rfl) trivial
  | valider page => exact iff_of_true (quiet (by simp) rfl rfl) trivial

/-- In every run on a device, orders stay with the restaurant they were picked from if and only
if no `+` and no 'Oui' of the run meets a line that was created at another restaurant. -/
theorem orders_stay_iff_no_foreign_line (user : Utilisateur) (actions : List Action) :
    (∀ front back, actions = front ++ back →
      Fideles (Machine.run (tracer user) sansTap front)) ↔
      Machine.Along (tracer user) SansMelange sansTap actions := by
  rw [← Machine.always_iff_prefixes]
  apply Machine.always_iff_along (tracer user) (fun _ => True)
  · exact fun _ _ _ => trivial
  · exact fun s act _ fideles => fideles_tracer user s act fideles
  · trivial
  · exact ⟨fun e sent => absurd sent List.not_mem_nil,
      fun r member => absurd member List.not_mem_nil⟩

/-- A dish is picked at R, the cart page of S is opened and confirmed: the order goes to S. -/
theorem dish_ordered_at_another_restaurant :
    (Machine.run (tracer ada) sansTap (choisirRiz "S" ++ [.oui 0 (fun _ => 0)])).envoyes.map
        (fun e => (e.1.restoId, e.2)) = [("S", ["R"])] ∧
      ¬ Fideles (Machine.run (tracer ada) sansTap (choisirRiz "S" ++ [.oui 0 (fun _ => 0)])) := by
  have sent : (Machine.run (tracer ada) sansTap
      (choisirRiz "S" ++ [.oui 0 (fun _ => 0)])).envoyes.map (fun e => (e.1.restoId, e.2)) =
        [("S", ["R"])] := by decide +kernel
  refine ⟨sent, fun fideles => ?_⟩
  have member : ("S", ["R"]) ∈ (Machine.run (tracer ada) sansTap
      (choisirRiz "S" ++ [.oui 0 (fun _ => 0)])).envoyes.map (fun e => (e.1.restoId, e.2)) := by
    rw [sent]
    exact List.mem_singleton.mpr rfl
  obtain ⟨e, inside, equal⟩ := List.mem_map.mp member
  rw [Prod.mk.injEq] at equal
  have same := (fideles.envoyes e inside).2 "R" (by rw [equal.2]; simp)
  rw [equal.1] at same
  exact absurd same (by decide)

end EWallet.Commandes
