import EWallet.Facture.Continuer
import Mathlib.Algebra.BigOperators.Group.Finset.Basic
import Mathlib.Data.Fintype.BigOperators
import Mathlib.Algebra.Order.Group.Multiset

namespace EWallet.Facture

open Firestore

structure Coherente (db : Database) (persoId restoId : String) (e : Etape) : Prop where
  lue : ∀ b, e = .balanceLue (.number b) → (balance? db persoId).isSome
  choisie : ∀ p id, e.choix = some (p, id) →
    NonSoldee db ⟨restoId, id⟩ ∧ client? db ⟨restoId, id⟩ = some persoId ∧
      prix? db ⟨restoId, id⟩ = some p ∧ (balance? db persoId).isSome

theorem coherente_sans_variable (db : Database) (persoId restoId : String) (e : Etape)
    (unread : ∀ b, e ≠ .balanceLue b) (none_ : e.choix = none) :
    Coherente db persoId restoId e where
  lue b read := absurd read (unread (.number b))
  choisie p id picked := by
    rw [none_] at picked
    cases picked

theorem coherente_transfer {db : Database} {persoId restoId : String} {e e' : Etape}
    (coherente : Coherente db persoId restoId e) (choix : e'.choix = e.choix)
    (unread : ∀ b, e' ≠ .balanceLue b) : Coherente db persoId restoId e' where
  lue b read := absurd read (unread (.number b))
  choisie p id picked := coherente.choisie p id (choix ▸ picked)

variable {ι : Type*} [DecidableEq ι] (persoId restoId : ι → String)

/-- What every reachable state keeps of the initial store `db`. -/
structure Invariant (db : Database) (c : Systeme ι) : Prop where
  client : ∀ f, client? c.shared f = client? db f
  prix : ∀ f, prix? c.shared f = prix? db f
  etat : ∀ f, etat? c.shared f = etat? db f ∨ Reglee db c.shared f
  numerique : ∀ u, (balance? c.shared u).isSome = (balance? db u).isSome
  locale : ∀ i, Coherente db (persoId i) (restoId i) (c.loc i)
  sansEchec : ∀ i avant, c.loc i = .erreur avant → avant.choix = none
  soldee : ∀ i b p id, c.loc i = .solde b p id → Soldee c.shared ⟨restoId i, id⟩
  payee : ∀ f, Reglee db c.shared f → ∃ i b p, restoId i = f.resto ∧ c.loc i = .solde b p f.id

variable {persoId restoId}

omit [DecidableEq ι] in
theorem invariant_initial (db : Database) :
    Invariant persoId restoId db (Interleaving.initial db .debut) where
  client _ := rfl
  prix _ := rfl
  etat _ := Or.inl rfl
  numerique _ := rfl
  locale i := coherente_sans_variable db _ _ .debut (by simp) rfl
  sansEchec i avant failed := by cases failed
  soldee i b p id paid := by cases paid
  payee f regle := absurd regle.1 (soldee_excludes regle.2)

theorem locale_update {db : Database} {loc : ι → Etape}
    (locale : ∀ i, Coherente db (persoId i) (restoId i) (loc i)) (i : ι) (e : Etape)
    (coherente : Coherente db (persoId i) (restoId i) e) (j : ι) :
    Coherente db (persoId j) (restoId j) (Function.update loc i e j) :=
  (Function.forall_update_iff loc (fun j e => Coherente db (persoId j) (restoId j) e)).mpr
    ⟨coherente, fun j _ => locale j⟩ j

theorem invariant_local (db : Database) (c : Systeme ι) (inv : Invariant persoId restoId db c)
    (i : ι) (e : Etape) (unpaid : ∀ b p id, c.loc i ≠ .solde b p id)
    (coherente : Coherente db (persoId i) (restoId i) e) (still : ∀ b p id, e ≠ .solde b p id)
    (sansEchec : ∀ avant, e = .erreur avant → avant.choix = none) :
    Invariant persoId restoId db ⟨c.shared, Function.update c.loc i e⟩ where
  client := inv.client
  prix := inv.prix
  etat := inv.etat
  numerique := inv.numerique
  locale := locale_update inv.locale i e coherente
  sansEchec := (Function.forall_update_iff c.loc
    (fun _ e => ∀ avant, e = .erreur avant → avant.choix = none)).mpr
      ⟨sansEchec, fun j _ => inv.sansEchec j⟩
  soldee := (Function.forall_update_iff c.loc
    (fun j e => ∀ b p id, e = .solde b p id → Soldee c.shared ⟨restoId j, id⟩)).mpr
      ⟨fun b p id equal => absurd equal (still b p id), fun j _ => inv.soldee j⟩
  payee f regle := by
    obtain ⟨j, b, p, resto, paid⟩ := inv.payee f regle
    have different : j ≠ i := fun same => unpaid b p f.id (same ▸ paid)
    exact ⟨j, b, p, resto, by simp [different, paid]⟩

omit [DecidableEq ι] in
theorem numerique_choisie (db : Database) (c : Systeme ι) (inv : Invariant persoId restoId db c)
    (i : ι) (p : Number) (id : String) (picked : (c.loc i).choix = some (p, id)) :
    (balance? c.shared (persoId i)).isSome := by
  rw [inv.numerique]
  exact ((inv.locale i).choisie p id picked).2.2.2

omit [DecidableEq ι] in
theorem wallet_present (db : Database) (c : Systeme ι) (inv : Invariant persoId restoId db c)
    (i : ι) (b p : Number) (id : String) (at_ : c.loc i = .valide b p id) :
    (c.shared.doc? utilisateurs (persoId i)).isSome := by
  have numeric := numerique_choisie db c inv i p id (by rw [at_]; rfl)
  rw [balance?, Option.isSome_bind] at numeric
  exact Option.isSome_of_any numeric

theorem invariant_debit (db : Database) (c : Systeme ι) (inv : Invariant persoId restoId db c)
    (i : ι) (b p : Number) (id : String) (at_ : c.loc i = .valide b p id) :
    Invariant persoId restoId db
      ⟨debit c.shared (persoId i) p, Function.update c.loc i (.debite b p id)⟩ := by
  have numeric := numerique_choisie db c inv i p id (by rw [at_]; rfl)
  have coherente : Coherente db (persoId i) (restoId i) (.debite b p id) :=
    coherente_transfer (inv.locale i) (by rw [at_]; rfl) (by simp)
  have moved := invariant_local db c inv i (.debite b p id) (by simp [at_]) coherente (by simp)
    (by simp)
  refine ⟨?_, ?_, ?_, ?_, moved.locale, moved.sansEchec, ?_, ?_⟩
  · intro f
    rw [client?_debit]
    exact inv.client f
  · intro f
    rw [prix?_debit]
    exact inv.prix f
  · intro f
    simpa [Reglee] using inv.etat f
  · intro u
    rw [balance?_debit _ _ _ _ numeric, ← inv.numerique u]
    split <;> simp
  · intro j b' p' id' paid
    simpa using moved.soldee j b' p' id' paid
  · intro f regle
    exact moved.payee f (by simpa [Reglee] using regle)

theorem invariant_reglement (db : Database) (c : Systeme ι)
    (inv : Invariant persoId restoId db c) (i : ι) (b p : Number) (id : String)
    (at_ : c.loc i = .debite b p id) (present : (facture? c.shared ⟨restoId i, id⟩).isSome) :
    Invariant persoId restoId db
      ⟨reglement c.shared ⟨restoId i, id⟩, Function.update c.loc i (.solde b p id)⟩ := by
  have picked := (inv.locale i).choisie p id (by rw [at_]; rfl)
  have coherente : Coherente db (persoId i) (restoId i) (.solde b p id) :=
    coherente_transfer (inv.locale i) (by rw [at_]; rfl) (by simp)
  have settled := fun g => soldee_reglement c.shared ⟨restoId i, id⟩ g present
  refine ⟨?_, ?_, ?_, ?_, locale_update inv.locale i _ coherente, ?_, ?_, ?_⟩
  · intro f
    rw [client?_reglement]
    exact inv.client f
  · intro f
    rw [prix?_reglement]
    exact inv.prix f
  · intro f
    by_cases same : f = ⟨restoId i, id⟩
    · exact Or.inr ⟨same ▸ picked.1, (settled f).mpr (Or.inl same)⟩
    · rcases inv.etat f with still | regle
      · rw [etat?_reglement _ _ _ present, if_neg same]
        exact Or.inl still
      · exact Or.inr ⟨regle.1, (settled f).mpr (Or.inr regle.2)⟩
  · intro u
    rw [balance?_reglement]
    exact inv.numerique u
  · rw [Function.forall_update_iff c.loc (fun _ e => ∀ avant, e = .erreur avant →
      avant.choix = none)]
    exact ⟨by simp, fun j _ => inv.sansEchec j⟩
  · rw [Function.forall_update_iff c.loc (fun j e => ∀ b' p' id', e = .solde b' p' id' →
      Soldee (reglement c.shared ⟨restoId i, id⟩) ⟨restoId j, id'⟩)]
    constructor
    · intro b' p' id' equal
      cases equal
      exact (settled _).mpr (Or.inl rfl)
    · intro j _ b' p' id' paid
      exact (settled _).mpr (Or.inr (inv.soldee j b' p' id' paid))
  · intro f regle
    rcases (settled f).mp regle.2 with rfl | before
    · exact ⟨i, b, p, rfl, by simp⟩
    · obtain ⟨j, b', p', resto, paid⟩ := inv.payee f ⟨regle.1, before⟩
      have different : j ≠ i := by
        intro equal
        rw [equal, at_] at paid
        cases paid
      exact ⟨j, b', p', resto, by simp [different, paid]⟩

omit [DecidableEq ι] in
theorem coherente_lecture (db : Database) (c : Systeme ι) (inv : Invariant persoId restoId db c)
    (i : ι) (data : Doc) (found : c.shared.doc? utilisateurs (persoId i) = some data) :
    Coherente db (persoId i) (restoId i) (.balanceLue (data.field "balance")) := by
  refine ⟨fun b read => ?_, fun p id picked => by cases picked⟩
  rw [Etape.balanceLue.injEq, ← Doc.number?_iff_field] at read
  rw [← inv.numerique]
  simp [balance?, found, read]

omit [DecidableEq ι] in
theorem coherente_selection (db : Database) (c : Systeme ι)
    (inv : Invariant persoId restoId db c) (i : ι) (b p : Number) (id : String) (data : Doc)
    (at_ : c.loc i = .balanceLue (.number b))
    (first : (facturesNonSoldees c.shared (persoId i) (restoId i)).head? = some (id, data))
    (price : data.number? "prix" = some p) :
    Coherente db (persoId i) (restoId i) (.valide b p id) := by
  obtain ⟨found, own, unpaid⟩ := selection_facture _ _ _ _ _ first
  refine ⟨fun b read => (by cases read), fun p' id' equal => ?_⟩
  simp only [Etape.choix, Option.some.injEq, Prod.mk.injEq] at equal
  obtain ⟨rfl, rfl⟩ := equal
  have now : NonSoldee c.shared ⟨restoId i, id⟩ := by
    simpa [NonSoldee, etat?, found] using unpaid
  refine ⟨?_, ?_, ?_, (inv.locale i).lue b at_⟩
  · rcases inv.etat ⟨restoId i, id⟩ with same | regle
    · rw [NonSoldee, ← same]
      exact now
    · exact absurd now (soldee_excludes regle.2)
  · rw [← inv.client]
    simpa [client?, found] using own
  · rw [← inv.prix]
    simp [prix?, found, price]

theorem invariant_pas (db : Database) (c : Systeme ι) (inv : Invariant persoId restoId db c)
    (i : ι) : Invariant persoId restoId db (pas persoId restoId c i) := by
  obtain ⟨db', e', result, step⟩ := pas_cases persoId restoId c i
  rw [result]
  generalize at_ : c.loc i = e at step
  cases step with
  | lecture data found =>
      exact invariant_local db c inv i _ (by simp [at_]) (coherente_lecture db c inv i data found)
        (by simp) (by simp)
  | selection b p id data first price enough =>
      exact invariant_local db c inv i _ (by simp [at_])
        (coherente_selection db c inv i b p id data at_ first price) (by simp) (by simp)
  | refus b p id data first price short =>
      exact invariant_local db c inv i _ (by simp [at_])
        (coherente_sans_variable db _ _ .refuse (by simp) rfl) (by simp) (by simp)
  | debit b p id present => exact invariant_debit db c inv i b p id at_
  | reglement b p id present => exact invariant_reglement db c inv i b p id at_ present
  | exception avant going before =>
      apply invariant_local db c inv i _ _ _ (by simp)
      · intro autre same
        cases same
        exact before
      · intro b p id equal
        rw [← at_, equal] at going
        exact going trivial
      · exact coherente_transfer (inv.locale i) (by rw [at_]; rfl) (by simp)
  | echecDebit b p id absent =>
      have numeric := (wallet_present db c inv i b p id at_)
      rw [absent] at numeric
      cases numeric
  | echecReglement b p id absent =>
      have picked := (inv.locale i).choisie p id (by rw [at_]; rfl)
      have own := inv.client ⟨restoId i, id⟩
      rw [client?, absent, picked.2.1] at own
      cases own
  | repos e done =>
      rw [← at_, Function.update_eq_self]
      exact inv

theorem invariant_executer (db : Database) (ordre : List ι) :
    Invariant persoId restoId db (executer persoId restoId db ordre) :=
  Machine.run_preserves _ (Invariant persoId restoId db)
    (fun c i inv => invariant_pas db c inv i) _ ordre (invariant_initial db)

section Journal

variable (persoId restoId)

def debitDe (u : String) (c : Systeme ι) (i : ι) : List Number :=
  if persoId i = u ∧ (c.loc i).preleve = none then
    (((pas persoId restoId c i).loc i).preleve.map Prod.fst).toList
  else []

/-- The prices the runs of `u` have taken from the account, in the order in which they did. -/
def journal (db : Database) (ordre : List ι) (u : String) : List Number :=
  Machine.output (pas persoId restoId) (debitDe persoId restoId u)
    (Interleaving.initial db .debut) ordre

theorem journal_snoc (db : Database) (ordre : List ι) (i : ι) (u : String) :
    journal persoId restoId db (ordre ++ [i]) u = journal persoId restoId db ordre u ++
      debitDe persoId restoId u (executer persoId restoId db ordre) i := by
  rw [journal, Machine.output_append]
  exact congrArg _ (List.append_nil _)

variable {persoId restoId}

theorem debitDe_sans (c : Systeme ι) (db : Database) (i : ι) (e : Etape) (u : String)
    (result : pas persoId restoId c i = ⟨db, Function.update c.loc i e⟩)
    (same : e.preleve = (c.loc i).preleve) : debitDe persoId restoId u c i = [] := by
  rw [debitDe, result]
  split
  · rename_i taking
    simp only [Function.update_self, same, taking.2, Option.map_none, Option.toList_none]
  · rfl

theorem debitDe_debit (c : Systeme ι) (db : Database) (i : ι) (b p : Number) (id u : String)
    (result : pas persoId restoId c i = ⟨db, Function.update c.loc i (.debite b p id)⟩)
    (at_ : c.loc i = .valide b p id) :
    debitDe persoId restoId u c i = if persoId i = u then [p] else [] := by
  simp [debitDe, result, at_, Etape.preleve]

theorem balance_pas (db : Database) (c : Systeme ι) (inv : Invariant persoId restoId db c)
    (i : ι) (u : String) :
    balance? (pas persoId restoId c i).shared u =
      (debitDe persoId restoId u c i).foldl (fun b p => b.map (fun b => b.decrease p))
        (balance? c.shared u) := by
  obtain ⟨db', e', result, step⟩ := pas_cases persoId restoId c i
  have idle : e'.preleve = (c.loc i).preleve → debitDe persoId restoId u c i = [] :=
    debitDe_sans c db' i e' u result
  generalize at_ : c.loc i = e at step idle
  cases step with
  | lecture data found => rw [idle rfl, result, List.foldl_nil]
  | selection b p id data first price enough => rw [idle rfl, result, List.foldl_nil]
  | refus b p id data first price short => rw [idle rfl, result, List.foldl_nil]
  | debit b p id present =>
      have numeric := numerique_choisie db c inv i p id (by rw [at_]; rfl)
      rw [debitDe_debit c _ i b p id u result at_, result, balance?_debit _ _ _ _ numeric]
      by_cases own : u = persoId i
      · rw [if_pos own, if_pos own.symm, List.foldl_cons, List.foldl_nil]
      · rw [if_neg own, if_neg (Ne.symm own), List.foldl_nil]
  | reglement b p id present => rw [idle rfl, result, balance?_reglement, List.foldl_nil]
  | exception avant going before => rw [idle rfl, result, List.foldl_nil]
  | echecDebit b p id absent => rw [idle rfl, result, List.foldl_nil]
  | echecReglement b p id absent => rw [idle rfl, result, List.foldl_nil]
  | repos e done => rw [idle rfl, result, List.foldl_nil]

theorem balance_executer (db : Database) (ordre : List ι) (u : String) :
    balance? (executer persoId restoId db ordre).shared u =
      (balance? db u).map
        (fun b => (journal persoId restoId db ordre u).foldl Number.decrease b) := by
  have kept := Machine.run_folds (pas persoId restoId) (Invariant persoId restoId db)
    (fun c => balance? c.shared u) (debitDe persoId restoId u)
    (fun b p => b.map (fun b => b.decrease p)) (fun c i inv => invariant_pas db c inv i)
    (fun c i inv => balance_pas db c inv i u) (Interleaving.initial db .debut) ordre
    (invariant_initial db)
  have inside : ∀ (prixs : List Number) (b : Option Number),
      prixs.foldl (fun b p => b.map (fun b => b.decrease p)) b =
        b.map (fun b => prixs.foldl Number.decrease b) := by
    intro prixs
    induction prixs with
    | nil => exact fun b => Option.map_id'.symm ▸ rfl
    | cons p rest ih => exact fun b => by rw [List.foldl_cons, ih, Option.map_map]; rfl
  exact kept.trans (inside _ _)

end Journal

section Sommes

variable [Fintype ι] (persoId)

def preleves (c : Systeme ι) (u : String) : ℚ :=
  ∑ i, if persoId i = u then (c.loc i).montant else 0

def Etape.prises (e : Etape) : Multiset Number := (e.preleve.map (fun p => {p.1})).getD 0

def prises (c : Systeme ι) (u : String) : Multiset Number :=
  ∑ i, if persoId i = u then (c.loc i).prises else 0

theorem prises_update (c : Systeme ι) (db : Database) (i : ι) (e : Etape) (u : String) :
    prises persoId ⟨db, Function.update c.loc i e⟩ u +
        (if persoId i = u then (c.loc i).prises else 0) =
      prises persoId c u + if persoId i = u then e.prises else 0 := by
  have others : ∀ j ∈ Finset.univ.erase i,
      (if persoId j = u then (Function.update c.loc i e j).prises else 0) =
        if persoId j = u then (c.loc j).prises else 0 := by
    intro j member
    rw [Function.update_of_ne (Finset.ne_of_mem_erase member)]
  simp only [prises]
  rw [← Finset.add_sum_erase _ _ (Finset.mem_univ i), Finset.sum_congr rfl others,
    ← Finset.add_sum_erase _ _ (Finset.mem_univ i), Function.update_self]
  ac_rfl

variable {persoId}

theorem prises_pas (c : Systeme ι) (i : ι) (u : String) :
    prises persoId (pas persoId restoId c i) u =
      prises persoId c u + (debitDe persoId restoId u c i : Multiset Number) := by
  obtain ⟨db', e', result, step⟩ := pas_cases persoId restoId c i
  have total := prises_update persoId c db' i e' u
  have idle : e'.preleve = (c.loc i).preleve → prises persoId (pas persoId restoId c i) u =
      prises persoId c u + (debitDe persoId restoId u c i : Multiset Number) := by
    intro same
    rw [debitDe_sans c db' i e' u result same, Multiset.coe_nil, add_zero, result]
    rw [Etape.prises, Etape.prises, same] at total
    exact add_right_cancel total
  generalize at_ : c.loc i = e at step idle total
  cases step with
  | lecture data found => exact idle rfl
  | selection b p id data first price enough => exact idle rfl
  | refus b p id data first price short => exact idle rfl
  | debit b p id present =>
      rw [debitDe_debit c _ i b p id u result at_, result]
      by_cases own : persoId i = u
      · simpa [own, Etape.prises, Etape.preleve] using total
      · simpa [own] using total
  | reglement b p id present => exact idle rfl
  | exception avant going before => exact idle rfl
  | echecDebit b p id absent => exact idle rfl
  | echecReglement b p id absent => exact idle rfl
  | repos e done => exact idle rfl

theorem prises_journal (db : Database) (ordre : List ι) (u : String) :
    prises persoId (executer persoId restoId db ordre) u = journal persoId restoId db ordre u := by
  induction ordre using List.reverseRecOn with
  | nil => simp [prises, journal, Machine.output, Machine.trace, executer, Interleaving.initial,
      Etape.prises, Etape.preleve]
  | append_singleton front i ih =>
      rw [executer_snoc, prises_pas, ih, journal_snoc, Multiset.coe_add]

omit [DecidableEq ι] in
theorem preleves_prises (c : Systeme ι) (u : String) :
    preleves persoId c u = ((prises persoId c u).map Number.toRat).sum := by
  have total := map_sum (Multiset.sumAddMonoidHom.comp (Multiset.mapAddMonoidHom Number.toRat))
    (fun i => if persoId i = u then (c.loc i).prises else 0) Finset.univ
  refine Eq.trans (Finset.sum_congr rfl fun i _ => ?_) total.symm
  simp only [Etape.montant, Etape.prises]
  split
  · cases (c.loc i).preleve with
    | none => rfl
    | some p => simp
  · rfl

theorem preleves_journal (db : Database) (ordre : List ι) (u : String) :
    preleves persoId (executer persoId restoId db ordre) u =
      ((journal persoId restoId db ordre u).map Number.toRat).sum := by
  rw [preleves_prises, prises_journal, Multiset.map_coe, Multiset.sum_coe]

end Sommes

end EWallet.Facture
