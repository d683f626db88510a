import EWallet.Facture.Decouvert
import EWallet.Facture.Reprise
import EWallet.Library.Engagement

namespace EWallet.Facture

open Firestore Engagement

/-- The run has read the balance and may still debit on the strength of what it read. -/
def Etape.EnMain : Etape → Prop
  | .balanceLue _ => True
  | .valide _ _ _ => True
  | _ => False

instance : DecidablePred Etape.EnMain := fun e =>
  match e with
  | .debut => isFalse id
  | .balanceLue _ => isTrue trivial
  | .valide _ _ _ => isTrue trivial
  | .debite _ _ _ => isFalse id
  | .solde _ _ _ => isFalse id
  | .refuse => isFalse id
  | .erreur _ => isFalse id

def Etape.lu : Etape → Option Number
  | .debut => none
  | .balanceLue (.number b) => some b
  | .balanceLue _ => none
  | .valide b _ _ => some b
  | .debite b _ _ => some b
  | .solde b _ _ => some b
  | .refuse => none
  | .erreur avant => avant.lu

theorem lireBalance_lu (data : Doc) :
    Etape.lu (.balanceLue (data.field "balance")) = data.number? "balance" := by
  simp only [Doc.field, Doc.number?]
  cases data "balance" with
  | none => rfl
  | some v => cases v <;> rfl

theorem pas_lu {persoId restoId : String} {db db' : Database} {e e' : Etape}
    (step : Pas persoId restoId db e db' e') (b : Number) (held : e'.lu = some b) :
    e.lu = some b ∨ e = .debut ∧ balance? db persoId = some b := by
  cases step with
  | lecture data found =>
      rw [lireBalance_lu] at held
      exact Or.inr ⟨rfl, by simp [balance?, found, held]⟩
  | selection b p id data first price enough => exact Or.inl held
  | refus b p id data first price short => cases held
  | debit b p id present => exact Or.inl held
  | reglement b p id present => exact Or.inl held
  | exception avant going before => exact Or.inl held
  | echecDebit b p id absent => exact Or.inl held
  | echecReglement b p id absent => exact Or.inl held
  | repos e done => exact Or.inl held

/-- What a run may still take from an account of integers without reading it again. -/
def Etape.engagement (plafond : Int) : Etape → Int
  | .balanceLue (.number (.int b)) => max 0 (min plafond b)
  | .valide _ (.int p) _ => max 0 p
  | _ => 0

def niveau : Option Number → Int
  | some (.int n) => n
  | _ => 0

theorem engagement_nonneg (plafond : Int) (e : Etape) : 0 ≤ e.engagement plafond := by
  unfold Etape.engagement
  split
  · exact le_max_left _ _
  · exact le_max_left _ _
  · exact le_rfl

theorem engagement_enMain (plafond : Int) (e : Etape) (some_ : e.engagement plafond ≠ 0) :
    e.EnMain := by
  cases e with
  | balanceLue v => trivial
  | valide b p id => trivial
  | debut => exact some_ rfl
  | debite b p id => exact some_ rfl
  | solde b p id => exact some_ rfl
  | refuse => exact some_ rfl
  | erreur avant => exact some_ rfl

theorem engagement_lecture (plafond : Int) (db : Database) (u : String) (data : Doc)
    (found : db.doc? utilisateurs u = some data) (room : 0 ≤ plafond) :
    Etape.engagement plafond (.balanceLue (data.field "balance")) ≤ plafond ∧
      Etape.engagement plafond (.balanceLue (data.field "balance")) ≤
        max 0 (niveau (balance? db u)) := by
  unfold Etape.engagement
  split
  · rename_i b read
    rw [Etape.balanceLue.injEq, ← Doc.number?_iff_field] at read
    have held : balance? db u = some (.int b) := by simp [balance?, found, read]
    rw [held]
    exact ⟨max_le room (min_le_left _ _), max_le_max le_rfl (min_le_right _ _)⟩
  · rename_i read
    cases read
  · exact ⟨room, le_max_left _ _⟩

/-- The unpaid invoices of the user have integer prices, none of them larger. -/
def Plafond (db : Database) (u : String) (plafond : Int) : Prop :=
  ∀ f p, NonSoldee db f → client? db f = some u → prix? db f = some p →
    ∃ k : Int, p = .int k ∧ |k| ≤ plafond

section Bourse

variable {ι : Type*} [DecidableEq ι] (persoId : ι → String) (plafond : Int)

def bourse (c : Systeme ι) (u : String) : Purse ι Int where
  level := niveau (balance? c.shared u)
  held i := if persoId i = u then (c.loc i).engagement plafond else 0

def enMain [Fintype ι] (c : Systeme ι) (u : String) : Finset ι :=
  Finset.univ.filter (fun i => persoId i = u ∧ (c.loc i).EnMain)

/-- The account of a user is an integer within bounds, and so is what its runs have read of it. -/
structure Entier (borne : Int) (c : Systeme ι) (u : String) : Prop where
  compte : ∃ m : Int, balance? c.shared u = some (.int m) ∧ |m| ≤ borne
  lue : ∀ i, persoId i = u → ∀ b, (c.loc i).lu = some b → ∃ m : Int, b = .int m ∧ |m| ≤ borne

theorem bourse_update (c : Systeme ι) (db : Database) (i : ι) (e : Etape) (u : String) :
    bourse persoId plafond ⟨db, Function.update c.loc i e⟩ u =
      ⟨niveau (balance? db u), Function.update (bourse persoId plafond c u).held i
        (if persoId i = u then e.engagement plafond else 0)⟩ := by
  simp only [bourse, Purse.mk.injEq, true_and]
  funext j
  by_cases same : j = i
  · subst same
    simp
  · simp [same]

variable {persoId plafond} {restoId : ι → String}

theorem move_moins (c : Systeme ι) (db : Database) (i : ι) (e : Etape) (u : String)
    (same : balance? db u = balance? c.shared u)
    (less : persoId i = u → e.engagement plafond ≤ (c.loc i).engagement plafond) :
    Move plafond (bourse persoId plafond c u)
      (bourse persoId plafond ⟨db, Function.update c.loc i e⟩ u) := by
  rw [bourse_update, same]
  apply Move.lower (bourse persoId plafond c u) i
  · split
    · exact engagement_nonneg plafond e
    · exact le_rfl
  · simp only [bourse]
    split
    · rename_i own
      exact less own
    · exact le_rfl

theorem move_pas (db : Database) (c : Systeme ι) (inv : Invariant persoId restoId db c)
    (u : String) (capped : Plafond db u plafond) (room : 0 ≤ plafond) (borne : Int)
    (small : borne + plafond < 2 ^ 63) (entier : Entier persoId borne c u) (i : ι) :
    Move plafond (bourse persoId plafond c u)
      (bourse persoId plafond (pas persoId restoId c i) u) := by
  obtain ⟨db', e', result, step⟩ := pas_cases persoId restoId c i
  rw [result]
  generalize at_ : c.loc i = e at step
  have given : ∀ e' : Etape, e'.engagement plafond = 0 →
      e'.engagement plafond ≤ (c.loc i).engagement plafond := by
    intro e' zero
    rw [zero]
    exact engagement_nonneg plafond _
  cases step with
  | lecture data found =>
      by_cases own : persoId i = u
      · subst own
        obtain ⟨low, covered⟩ := engagement_lecture plafond c.shared _ data found room
        rw [bourse_update, if_pos rfl]
        exact .look _ i _ (engagement_nonneg plafond _) low covered
      · exact move_moins c _ i _ u rfl (fun same => absurd same own)
  | selection b p id data first price enough =>
      apply move_moins c _ i _ u rfl
      intro own
      subst own
      have coherente := coherente_selection db c inv i b p id data at_ first price
      obtain ⟨unpaid, client, amount, _⟩ := coherente.choisie p id rfl
      obtain ⟨k, rfl, size⟩ := capped _ _ unpaid client amount
      obtain ⟨m, rfl, bounded⟩ := entier.lue i rfl b (by rw [at_]; rfl)
      rw [Number.sub_int m k (by omega)] at enough
      change 0 ≤ m - k at enough
      rw [at_]
      exact max_le_max le_rfl (le_min ((le_abs_self k).trans size) (by omega))
  | refus b p id data first price short => exact move_moins c _ i _ u rfl (fun _ => given _ rfl)
  | debit b p id present =>
      have numeric := numerique_choisie db c inv i p id (by rw [at_]; rfl)
      by_cases own : persoId i = u
      · subst own
        obtain ⟨unpaid, client, amount, _⟩ := (inv.locale i).choisie p id (by rw [at_]; rfl)
        obtain ⟨k, rfl, size⟩ := capped _ _ unpaid client amount
        obtain ⟨m, here, bounded⟩ := entier.compte
        have after := balance?_debit c.shared (persoId i) (persoId i) (.int k) numeric
        rw [if_pos rfl, here, Option.map_some, Number.decrease_int m k (by omega)] at after
        have level : (bourse persoId plafond c (persoId i)).level = m := by
          simp [bourse, here, niveau]
        rw [bourse_update, if_pos rfl, after, niveau, ← level]
        apply Move.take (bourse persoId plafond c (persoId i)) i k
        simp only [bourse, if_pos, at_]
        exact le_max_right _ _
      · apply move_moins c _ i _ u _ (fun same => absurd same own)
        rw [balance?_debit _ _ _ _ numeric, if_neg (Ne.symm own)]
  | reglement b p id present =>
      exact move_moins c _ i _ u (balance?_reglement _ _ _) (fun _ => given _ rfl)
  | exception avant going before => exact move_moins c _ i _ u rfl (fun _ => given _ rfl)
  | echecDebit b p id absent => exact move_moins c _ i _ u rfl (fun _ => given _ rfl)
  | echecReglement b p id absent => exact move_moins c _ i _ u rfl (fun _ => given _ rfl)
  | repos e done =>
      rw [← at_, Function.update_eq_self]
      exact .stay _

omit [DecidableEq ι] in
theorem holders_enMain [Fintype ι] (c : Systeme ι) (u : String) :
    holders (bourse persoId plafond c u) ⊆ enMain persoId c u := by
  intro i member
  have some_ := (Finset.mem_filter.mp member).2
  simp only [bourse] at some_
  by_cases own : persoId i = u
  · rw [if_pos own] at some_
    exact Finset.mem_filter.mpr ⟨Finset.mem_univ i, own, engagement_enMain plafond _ some_⟩
  · rw [if_neg own] at some_
    exact absurd rfl some_

theorem lue_pas (borne : Int) (c : Systeme ι) (u : String) (i : ι)
    (entier : Entier persoId borne c u) (j : ι) (own : persoId j = u) (b : Number)
    (held : ((pas persoId restoId c i).loc j).lu = some b) :
    ∃ m : Int, b = .int m ∧ |m| ≤ borne := by
  obtain ⟨db', e', result, step⟩ := pas_cases persoId restoId c i
  rw [result] at held
  by_cases same : j = i
  · subst same
    simp only [Function.update_self] at held
    rcases pas_lu step b held with before | ⟨_, read⟩
    · exact entier.lue j own b before
    · obtain ⟨m, here, bounded⟩ := entier.compte
      rw [own, here] at read
      exact ⟨m, (Option.some.inj read).symm, bounded⟩
  · simp only [Function.update_of_ne same] at held
    exact entier.lue j own b held

end Bourse

section Borne

variable {ι : Type*} [DecidableEq ι] [Fintype ι] (persoId restoId : ι → String)

theorem journal_entier (db : Database) (ordre : List ι) (u : String) (plafond : Int)
    (capped : Plafond db u plafond) :
    ∃ prixs : List Int, journal persoId restoId db ordre u = prixs.map .int ∧
      (∀ k ∈ prixs, |k| ≤ plafond) ∧ prixs.length ≤ Fintype.card ι := by
  have inv : Invariant persoId restoId db (executer persoId restoId db ordre) :=
    invariant_executer db ordre
  have listed : prises persoId (executer persoId restoId db ordre) u =
      journal persoId restoId db ordre u := prises_journal db ordre u
  have entiers : ∀ p ∈ journal persoId restoId db ordre u,
      ∃ k : Int, p = .int k ∧ |k| ≤ plafond := by
    intro p member
    rw [← Multiset.mem_coe, ← listed, prises, Multiset.mem_sum] at member
    obtain ⟨i, _, here⟩ := member
    split at here
    · rename_i own
      simp only [Etape.prises] at here
      cases taken : ((executer persoId restoId db ordre).loc i).preleve with
      | none =>
          rw [taken] at here
          cases here
      | some q =>
          rw [taken] at here
          obtain ⟨unpaid, client, price, _⟩ :=
            (inv.locale i).choisie q.1 q.2 (Etape.choix_of_preleve _ _ taken)
          rw [Multiset.mem_singleton.mp here]
          exact capped _ _ unpaid (own ▸ client) price
    · cases here
  have few : (prises persoId (executer persoId restoId db ordre) u).card ≤ Fintype.card ι := by
    rw [prises, Multiset.card_sum, Fintype.card, Finset.card_eq_sum_ones]
    apply Finset.sum_le_sum
    intro i _
    split
    · simp only [Etape.prises]
      cases ((executer persoId restoId db ordre).loc i).preleve with
      | none => exact Nat.zero_le 1
      | some p => exact le_rfl
    · exact Nat.zero_le 1
  rw [listed, Multiset.coe_card] at few
  generalize journal persoId restoId db ordre u = prixs at entiers few
  choose! entier same size using entiers
  refine ⟨prixs.map entier, ?_, ?_, ?_⟩
  · rw [List.map_map]
    exact (List.map_id prixs).symm.trans (List.map_congr_left same)
  · intro k member
    obtain ⟨p, inside, rfl⟩ := List.mem_map.mp member
    exact size p inside
  · rwa [List.length_map]

theorem compte_entier (db : Database) (ordre : List ι) (u : String) (b plafond : Int)
    (wallet : balance? db u = some (.int b)) (room : 0 ≤ plafond) (capped : Plafond db u plafond)
    (small : |b| + Fintype.card ι * plafond < 2 ^ 63) :
    ∃ m : Int, balance? (executer persoId restoId db ordre).shared u = some (.int m) ∧
      |m| ≤ |b| + Fintype.card ι * plafond := by
  obtain ⟨prixs, listed, sizes, few⟩ := journal_entier persoId restoId db ordre u plafond capped
  have total : (prixs.map abs).sum ≤ Fintype.card ι * plafond := by
    have each := List.sum_le_card_nsmul (prixs.map abs) plafond (by simpa using sizes)
    rw [List.length_map, nsmul_eq_mul] at each
    exact each.trans (mul_le_mul_of_nonneg_right (by exact_mod_cast few) room)
  have taken := List.le_sum_of_subadditive abs abs_zero.le abs_add_le prixs
  have left := abs_sub b prixs.sum
  exact ⟨b - prixs.sum, balance_entiere db ordre u b prixs wallet listed (by omega), by omega⟩

/-- With at most `n + 1` runs of a user between their balance read and their debit at any time,
no interleaving takes an account of integers lower than `n` times the dearest of the user's
invoices. -/
theorem overdraft_bounded_by_overlap (persoId restoId : ι → String) (db : Database)
    (ordre : List ι) (u : String) (b plafond : Int) (n : ℕ) (wallet : balance? db u = some (.int b))
    (room : 0 ≤ plafond) (capped : Plafond db u plafond)
    (small : |b| + Fintype.card ι * plafond + plafond < 2 ^ 63)
    (overlap : ∀ front back, ordre = front ++ back →
      (enMain persoId (executer persoId restoId db front) u).card ≤ n + 1) :
    ∀ front back, ordre = front ++ back → ∃ reste : Int,
      balance? (executer persoId restoId db front).shared u = some (.int reste) ∧
        min b 0 - n * plafond ≤ reste := by
  intro front back split
  have within := fun ordre => compte_entier persoId restoId db ordre u b plafond wallet room capped
    (by omega)
  have kept := Machine.prefixes_invariant (pas persoId restoId)
    (fun c : Systeme ι => Invariant persoId restoId db c ∧
      Entier persoId (|b| + Fintype.card ι * plafond) c u ∧
      Sound plafond (bourse persoId plafond c u) ∧
      Secured (min b 0) plafond n (bourse persoId plafond c u))
    (fun c => (enMain persoId c u).card ≤ n + 1 ∧
      ∃ m : Int, balance? c.shared u = some (.int m) ∧ |m| ≤ |b| + Fintype.card ι * plafond)
    ?_ (Interleaving.initial db .debut) ordre ?_
    (fun front back split => ⟨overlap front back split, within front⟩) front back split
  · obtain ⟨_, entier, sound, secured⟩ := kept
    obtain ⟨reste, here, _⟩ := entier.compte
    have level := secured_level sound secured
    simp only [bourse, here, niveau, nsmul_eq_mul] at level
    exact ⟨reste, here, level⟩
  · rintro c i ⟨inv, entier, sound, secured⟩ ⟨few, compte⟩
    have move := move_pas db c inv u capped room _ small entier i
    refine ⟨invariant_pas db c inv i, ⟨compte, lue_pas _ c u i entier⟩,
      move_sound room move sound, ?_⟩
    exact move_secured room (min_le_right b 0) sound
      ((Finset.card_le_card (holders_enMain _ u)).trans few) secured move
  · refine ⟨invariant_initial db, ⟨within [], fun i _ b' held => by cases held⟩, fun i => ?_, ?_⟩
    · simp [bourse, Interleaving.initial, Etape.engagement, room]
    · have slack : 0 ≤ n • plafond := nsmul_nonneg room n
      simp only [Secured, bourse, Interleaving.initial, Etape.engagement, ite_self,
        Finset.sum_const_zero, sub_zero, wallet, niveau]
      exact (sub_le_self _ slack).trans (min_le_left b 0)

theorem prix_deuxRestos (resto id : String) (p : Number)
    (price : prix? baseDeuxRestos ⟨resto, id⟩ = some p) : ∃ k : Int, p = .int k ∧ |k| ≤ 80 := by
  by_cases first : resto = "R"
  · subst first
    by_cases known : id = "f"
    · subst known
      have value : prix? baseDeuxRestos ⟨"R", "f"⟩ = some (.int 80) := by decide +kernel
      rw [value] at price
      exact ⟨80, (Option.some.inj price).symm, by decide⟩
    · simp [prix?, facture?, Database.doc?, transactions, baseDeuxRestos, known] at price
  · by_cases second : resto = "S"
    · subst second
      by_cases known : id = "g"
      · subst known
        have value : prix? baseDeuxRestos ⟨"S", "g"⟩ = some (.int 70) := by decide +kernel
        rw [value] at price
        exact ⟨70, (Option.some.inj price).symm, by decide⟩
      · simp [prix?, facture?, Database.doc?, transactions, baseDeuxRestos, known] at price
    · simp [prix?, facture?, Database.doc?, transactions, baseDeuxRestos, first, second,
        OrderedMap.get?, OrderedMap.empty] at price

theorem overdraft_bounded_for_two_invoices :
    ∃ reste : Int,
      balance? (executer (fun _ => "u") deuxRestos baseDeuxRestos
        [0, 1, 0, 1, 0, 1, 0, 1]).shared "u" = some (.int reste) ∧
        min 100 0 - (1 : ℕ) * (80 : Int) ≤ reste := by
  have held := overdraft_bounded_by_overlap (fun _ => "u") deuxRestos baseDeuxRestos
    [0, 1, 0, 1, 0, 1, 0, 1] "u" 100 80 1 (by decide +kernel) (by norm_num) ?_ (by decide) ?_
  · exact held [0, 1, 0, 1, 0, 1, 0, 1] [] (List.append_nil _).symm
  · intro f p unpaid client price
    exact prix_deuxRestos f.resto f.id p price
  · intro front back split
    exact (Finset.card_le_univ _).trans (by simp)

end Borne

section ParFacture

variable {ι : Type*} [DecidableEq ι] [Fintype ι] (restoId : ι → String)

def choisissent (c : Systeme ι) (f : FactureRef) : Finset ι :=
  Finset.univ.filter (fun i =>
    restoId i = f.resto ∧ (c.loc i).choix.map Prod.snd = some f.id)

def occupes (c : Systeme ι) (f : FactureRef) : Finset ι :=
  (choisissent restoId c f).filter (fun i => ¬ (c.loc i).Termine)

def debiteurs (c : Systeme ι) (f : FactureRef) : Finset ι :=
  Finset.univ.filter (fun i =>
    restoId i = f.resto ∧ (c.loc i).preleve.map Prod.snd = some f.id)

variable {persoId restoId : ι → String}

omit [DecidableEq ι] in
theorem debiteurs_choisissent (c : Systeme ι) (f : FactureRef) :
    debiteurs restoId c f ⊆ choisissent restoId c f := by
  intro i member
  obtain ⟨resto, taken⟩ := (Finset.mem_filter.mp member).2
  obtain ⟨p, read, named⟩ := Option.map_eq_some_iff.mp taken
  refine Finset.mem_filter.mpr ⟨Finset.mem_univ i, resto, ?_⟩
  rw [Etape.choix_of_preleve _ p read, Option.map_some, named]

omit [DecidableEq ι] in
theorem choisissent_occupes (db : Database) (c : Systeme ι) (inv : Invariant persoId restoId db c)
    (f : FactureRef) (unpaid : NonSoldee c.shared f) :
    choisissent restoId c f = occupes restoId c f := by
  symm
  rw [occupes, Finset.filter_eq_self]
  intro i member done
  obtain ⟨resto, picked⟩ := (Finset.mem_filter.mp member).2
  cases at_ : c.loc i with
  | solde b p id =>
      rw [at_] at picked
      cases picked
      have paid := inv.soldee i b p f.id at_
      rw [resto] at paid
      exact soldee_excludes paid unpaid
  | erreur avant =>
      rw [at_, Etape.choix, inv.sansEchec i avant at_] at picked
      cases picked
  | refuse => rw [at_] at picked; cases picked
  | debut => rw [at_] at done; exact done
  | balanceLue v => rw [at_] at done; exact done
  | valide b p id => rw [at_] at done; exact done
  | debite b p id => rw [at_] at done; exact done

variable (persoId restoId) in
omit [Fintype ι] in
theorem choix_pas (c : Systeme ι) (i : ι) :
    (∀ j f, (((pas persoId restoId c i).loc j).choix.map Prod.snd = some f →
      (c.loc j).choix.map Prod.snd = some f)) ∨
    ∃ b p id, (pas persoId restoId c i).loc i = .valide b p id ∧
      NonSoldee (pas persoId restoId c i).shared ⟨restoId i, id⟩ := by
  obtain ⟨db', e', result, step⟩ := pas_cases persoId restoId c i
  rw [result]
  have same : e'.choix = (c.loc i).choix ∨ e'.choix = none →
      ∀ j f, (Function.update c.loc i e' j).choix.map Prod.snd = some f →
        (c.loc j).choix.map Prod.snd = some f := by
    intro kept j f picked
    by_cases self : j = i
    · subst self
      rw [Function.update_self] at picked
      rcases kept with equal | none_
      · rw [← equal]
        exact picked
      · rw [none_] at picked
        cases picked
    · rwa [Function.update_of_ne self] at picked
  generalize at_ : c.loc i = e at step same
  cases step with
  | selection b p id data first price enough =>
      obtain ⟨found, _, unpaid⟩ := selection_facture _ _ _ _ _ first
      refine Or.inr ⟨b, p, id, Function.update_self .., ?_⟩
      simpa [NonSoldee, etat?, found] using unpaid
  | lecture data found => exact Or.inl (same (Or.inr rfl))
  | refus b p id data first price short => exact Or.inl (same (Or.inr rfl))
  | debit b p id present => exact Or.inl (same (Or.inl rfl))
  | reglement b p id present => exact Or.inl (same (Or.inl rfl))
  | exception avant going before => exact Or.inl (same (Or.inl rfl))
  | echecDebit b p id absent => exact Or.inl (same (Or.inl rfl))
  | echecReglement b p id absent => exact Or.inl (same (Or.inl rfl))
  | repos e done => exact Or.inl (same (Or.inl rfl))

theorem choisissent_pas (db : Database) (c : Systeme ι) (inv : Invariant persoId restoId db c)
    (i : ι) (f : FactureRef) (n : ℕ) (before : (choisissent restoId c f).card ≤ n)
    (few : (occupes restoId (pas persoId restoId c i) f).card ≤ n) :
    (choisissent restoId (pas persoId restoId c i) f).card ≤ n := by
  rcases choix_pas persoId restoId c i with same | ⟨b, p, id, at_, unpaid⟩
  · refine (Finset.card_le_card ?_).trans before
    intro j member
    obtain ⟨resto, picked⟩ := (Finset.mem_filter.mp member).2
    exact Finset.mem_filter.mpr ⟨Finset.mem_univ j, resto, same j f.id picked⟩
  · by_cases this : f = ⟨restoId i, id⟩
    · rw [choisissent_occupes db _ (invariant_pas db c inv i) f (this ▸ unpaid)]
      exact few
    · refine (Finset.card_le_card ?_).trans before
      intro j member
      obtain ⟨resto, picked⟩ := (Finset.mem_filter.mp member).2
      have other : j ≠ i := by
        rintro rfl
        rw [at_] at picked
        cases picked
        exact this (by rw [resto])
      rw [pas, Interleaving.step_loc_other _ c other] at picked
      exact Finset.mem_filter.mpr ⟨Finset.mem_univ j, resto, picked⟩

omit [DecidableEq ι] in
theorem montant_debiteurs (db : Database) (c : Systeme ι) (inv : Invariant persoId restoId db c)
    (f : FactureRef) :
    ∑ i ∈ debiteurs restoId c f, (c.loc i).montant =
      (debiteurs restoId c f).card * prix db f := by
  rw [← nsmul_eq_mul]
  apply Finset.sum_eq_card_nsmul
  intro i member
  obtain ⟨resto, taken⟩ := (Finset.mem_filter.mp member).2
  obtain ⟨⟨p, id⟩, read, named⟩ := Option.map_eq_some_iff.mp taken
  have amount := ((inv.locale i).choisie p id (Etape.choix_of_preleve _ _ read)).2.2.1
  change id = f.id at named
  rw [resto, named] at amount
  simp [Etape.montant, read, prix, amount]

/-- An invoice that at most `n` runs are busy with at any time is never charged more than `n`
times, whatever the number of runs. -/
theorem charges_bounded_by_overlap (persoId restoId : ι → String) (db : Database) (ordre : List ι)
    (f : FactureRef) (n : ℕ)
    (overlap : ∀ front back, ordre = front ++ back →
      (occupes restoId (executer persoId restoId db front) f).card ≤ n) :
    ∀ front back, ordre = front ++ back →
      ∃ k ≤ n, (debiteurs restoId (executer persoId restoId db front) f).card = k ∧
        ∑ i ∈ debiteurs restoId (executer persoId restoId db front) f,
          ((executer persoId restoId db front).loc i).montant = k * prix db f := by
  intro front back split
  obtain ⟨inv, few⟩ := Machine.prefixes_invariant (pas persoId restoId)
    (fun c : Systeme ι => Invariant persoId restoId db c ∧ (choisissent restoId c f).card ≤ n)
    (fun c => (occupes restoId c f).card ≤ n)
    (fun c i held few => ⟨invariant_pas db c held.1 i,
      choisissent_pas db c held.1 i f n held.2 few⟩)
    (Interleaving.initial db .debut) ordre
    ⟨invariant_initial db, by simp [choisissent, Interleaving.initial, Etape.choix]⟩
    overlap front back split
  exact ⟨_, (Finset.card_le_card (debiteurs_choisissent _ f)).trans few, rfl,
    montant_debiteurs db _ inv f⟩

theorem charges_bounded_for_two_taps :
    ∃ k ≤ 2, (debiteurs (fun _ => "R")
        (executer (fun _ => "u") (fun _ => "R") baseDouble ordreDouble) ⟨"R", "f"⟩).card = k ∧
      ∑ i ∈ debiteurs (fun _ => "R")
          (executer (fun _ => "u") (fun _ => "R") baseDouble ordreDouble) ⟨"R", "f"⟩,
        ((executer (fun _ => "u") (fun _ => "R") baseDouble ordreDouble).loc i).montant =
          k * prix baseDouble ⟨"R", "f"⟩ := by
  have held := charges_bounded_by_overlap (fun _ => "u") (fun _ => "R") baseDouble ordreDouble
    ⟨"R", "f"⟩ 2 ?_
  · exact held ordreDouble [] (List.append_nil _).symm
  · intro front back split
    exact (Finset.card_le_univ _).trans (by simp)

end ParFacture

section Rafale

variable {ι : Type*} {persoId restoId : ι → String}

theorem suivant_lecture {db : Database} {u R id : String} {b p : Number}
    (accepte : Accepte db u R b p id) (i : ι) (own : persoId i = u) :
    suivant persoId restoId i db .debut = (db, .balanceLue (.number b)) := by
  obtain ⟨data, found, holds⟩ := accepte.wallet
  rw [Doc.number?_iff_field] at holds
  simp [suivant, continuer, lireBalance, own, found, holds]

theorem suivant_selection {db : Database} {u R id : String} {b p : Number}
    (accepte : Accepte db u R b p id) (i : ι) (own : persoId i = u) (resto : restoId i = R) :
    suivant persoId restoId i db (.balanceLue (.number b)) = (db, .valide b p id) := by
  have two := essai_accepte accepte
  rw [essai_succ] at two
  obtain ⟨data, found, holds⟩ := accepte.wallet
  rw [Doc.number?_iff_field] at holds
  have one : essai u R 1 db = (db, .balanceLue (.number b)) := by
    change (db, lireBalance db u) = _
    simp [lireBalance, found, holds]
  rw [one] at two
  rw [suivant, own, resto]
  exact two

theorem suivant_debit (db : Database) (u : String) (b p : Number) (id : String) (i : ι)
    (own : persoId i = u) (present : (db.doc? utilisateurs u).isSome) :
    ((suivant persoId restoId i db (.valide b p id)).1.doc? utilisateurs u).isSome ∧
      (suivant persoId restoId i db (.valide b p id)).2 = .debite b p id := by
  simp only [suivant, continuer, debiter, Database.update, own, present, if_true, and_true]
  change ((debit db u p).doc? utilisateurs u).isSome
  rw [doc?_debit, if_pos rfl, Option.isSome_map]
  exact present

theorem suivant_reglement (db : Database) (R : String) (b p : Number) (id : String) (i : ι)
    (resto : restoId i = R) (present : (facture? db ⟨R, id⟩).isSome) :
    (facture? (suivant persoId restoId i db (.debite b p id)).1 ⟨R, id⟩).isSome ∧
      (suivant persoId restoId i db (.debite b p id)).2 = .solde b p id := by
  have there : (db.doc? (transactions R) id).isSome := present
  simp only [suivant, continuer, solder, Database.update, resto, there, if_true, and_true]
  change (facture? (reglement db ⟨R, id⟩) ⟨R, id⟩).isSome
  rw [facture?_reglement, if_pos rfl, Option.isSome_map]
  exact present

variable [DecidableEq ι]

variable (persoId restoId) in
theorem executer_vague (Q : Database → Prop) (e e' : Etape) (db : Database) (avant tour : List ι)
    (distinct : tour.Nodup)
    (moves : ∀ i ∈ tour, ∀ s, Q s → Q (suivant persoId restoId i s e).1 ∧
      (suivant persoId restoId i s e).2 = e')
    (start : Q (executer persoId restoId db avant).shared)
    (ready : ∀ i ∈ tour, (executer persoId restoId db avant).loc i = e) :
    Q (executer persoId restoId db (avant ++ tour)).shared ∧
      ∀ j, (executer persoId restoId db (avant ++ tour)).loc j =
        if j ∈ tour then e' else (executer persoId restoId db avant).loc j := by
  rw [executer, Interleaving.run_append]
  exact Interleaving.run_each (suivant persoId restoId) Q e e' tour moves distinct _ start ready

theorem executer_rafale {db : Database} {u R id : String} {b p : Number}
    (accepte : Accepte db u R b p id) (tour : List ι) (distinct : tour.Nodup)
    (own : ∀ i ∈ tour, persoId i = u) (resto : ∀ i ∈ tour, restoId i = R) (j : ι) :
    (executer persoId restoId db (tour ++ tour ++ tour ++ tour)).loc j =
      if j ∈ tour then .solde b p id else .debut := by
  obtain ⟨read, first⟩ := executer_vague persoId restoId (fun s => s = db) .debut
    (.balanceLue (.number b)) db [] tour distinct
    (fun i member s same => by
      rw [same, suivant_lecture accepte i (own i member)]
      exact ⟨rfl, rfl⟩) rfl (fun _ _ => rfl)
  rw [List.nil_append] at read first
  obtain ⟨picked, second⟩ := executer_vague persoId restoId (fun s => s = db)
    (.balanceLue (.number b)) (.valide b p id) db tour tour distinct
    (fun i member s same => by
      rw [same, suivant_selection accepte i (own i member) (resto i member)]
      exact ⟨rfl, rfl⟩) read (fun i member => by rw [first, if_pos member])
  obtain ⟨wallet, found, _⟩ := accepte.wallet
  obtain ⟨_, third⟩ := executer_vague persoId restoId (fun s => (s.doc? utilisateurs u).isSome)
    (.valide b p id) (.debite b p id) db (tour ++ tour) tour distinct
    (fun i member s present => suivant_debit s u b p id i (own i member) present)
    (by simp [picked, found]) (fun i member => by rw [second, if_pos member])
  have listed : (facture? (executer persoId restoId db (tour ++ tour ++ tour)).shared
      ⟨R, id⟩).isSome := by
    have inv : Invariant persoId restoId db
        (executer persoId restoId db (tour ++ tour ++ tour)) := invariant_executer db _
    have client := inv.client ⟨R, id⟩
    rw [(accepte_facture accepte).2.1, client?, Option.bind_eq_some_iff] at client
    exact Option.isSome_of_mem client.choose_spec.1
  obtain ⟨_, fourth⟩ := executer_vague persoId restoId (fun s => (facture? s ⟨R, id⟩).isSome)
    (.debite b p id) (.solde b p id) db (tour ++ tour ++ tour) tour distinct
    (fun i member s present => suivant_reglement s R b p id i (resto i member) present)
    listed (fun i member => by rw [third, if_pos member])
  rw [fourth]
  by_cases member : j ∈ tour
  · rw [if_pos member, if_pos member]
  · simp only [if_neg member]
    rw [third, if_neg member, second, if_neg member, first, if_neg member]
    rfl

/-- As many taps as one likes, all begun before the first one debits: each is accepted, each takes
the price of the same invoice from the account, and all announce a valid payment. -/
theorem overlapping_taps_all_charge [Fintype ι] (persoId restoId : ι → String) (db : Database)
    (u R id : String) (b p : Number) (accepte : Accepte db u R b p id) (tour : List ι)
    (distinct : tour.Nodup) (own : ∀ i ∈ tour, persoId i = u) (resto : ∀ i ∈ tour, restoId i = R) :
    (∀ i ∈ tour, (executer persoId restoId db (tour ++ tour ++ tour ++ tour)).loc i =
      .solde b p id) ∧
    balance? (executer persoId restoId db (tour ++ tour ++ tour ++ tour)).shared u =
      some ((fun reste : Number => reste.decrease p)^[tour.length] b) := by
  have places := executer_rafale accepte tour distinct own resto
  refine ⟨fun i member => by rw [places, if_pos member], ?_⟩
  obtain ⟨wallet, found, holds⟩ := accepte.wallet
  have before : balance? db u = some b := by simp [balance?, found, holds]
  have taken : prises persoId (executer persoId restoId db (tour ++ tour ++ tour ++ tour)) u =
      Multiset.replicate tour.length p := by
    calc
      prises persoId (executer persoId restoId db (tour ++ tour ++ tour ++ tour)) u =
          ∑ i, if i ∈ tour.toFinset then {p} else 0 := by
        apply Finset.sum_congr rfl
        intro i _
        simp only [places, List.mem_toFinset]
        by_cases member : i ∈ tour
        · simp [member, own i member, Etape.prises, Etape.preleve]
        · simp [member, Etape.prises, Etape.preleve]
      _ = tour.toFinset.card • {p} := by
        rw [Finset.sum_ite_mem, Finset.univ_inter, Finset.sum_const]
      _ = Multiset.replicate tour.length p := by
        rw [List.toFinset_card_of_nodup distinct, Multiset.nsmul_singleton]
  rw [prises_journal, ← Multiset.coe_replicate, Multiset.coe_eq_coe, List.perm_replicate] at taken
  have each := List.foldl_const (fun reste : Number => reste.decrease p) b
    (List.replicate tour.length p)
  rw [List.length_replicate] at each
  rw [balance_executer, before, taken, Option.map_some, ← each]
  apply congrArg some
  apply List.foldl_ext
  intro reste q member
  rw [List.eq_of_mem_replicate member]

theorem three_overlapping_taps :
    (∀ i ∈ List.finRange 3, (executer (fun _ => "u") (fun _ => "R") baseDouble
      (List.finRange 3 ++ List.finRange 3 ++ List.finRange 3 ++ List.finRange 3)).loc i =
        .solde (.int 100) (.int 30) "f") ∧
    balance? (executer (fun _ => "u") (fun _ => "R") baseDouble
      (List.finRange 3 ++ List.finRange 3 ++ List.finRange 3 ++ List.finRange 3)).shared "u" =
        some (.int 10) :=
  overlapping_taps_all_charge (fun _ => "u") (fun _ => "R") baseDouble "u" "R" "f"
    (.int 100) (.int 30) ⟨⟨_, rfl, rfl⟩, ⟨_, rfl, rfl⟩, by decide⟩ (List.finRange 3)
    (List.nodup_finRange 3) (fun _ _ => rfl) (fun _ _ => rfl)

end Rafale

end EWallet.Facture
