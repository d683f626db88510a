import EWallet.Facture.Appariement
import Mathlib.Algebra.BigOperators.Finprod

namespace EWallet.Facture

open Firestore

variable {ι : Type*} [DecidableEq ι] (persoId restoId : ι → String)

def UneFois (c : Systeme ι) : Prop :=
  ∀ i j p q id, restoId i = restoId j → (c.loc i).preleve = some (p, id) →
    (c.loc j).preleve = some (q, id) → i = j

noncomputable def totalRegle (db db' : Database) (u : String) : ℚ :=
  ∑ᶠ f ∈ {f | Reglee db db' f ∧ client? db f = some u}, prix db f

/-- No invoice is debited twice and, when no run is in progress, what has been taken from the
account of each user is the sum of the prices of that user's invoices that became 'Soldé'. -/
structure PaiementExact (db : Database) (ordre : List ι) : Prop where
  uneFois : UneFois restoId (executer persoId restoId db ordre)
  compte : ∀ u, balance? (executer persoId restoId db ordre).shared u = (balance? db u).map
    (fun b => (journal persoId restoId db ordre u).foldl Number.decrease b)
  montant : AucunEnCours (executer persoId restoId db ordre) → ∀ u,
    ((journal persoId restoId db ordre u).map Number.toRat).sum =
      totalRegle db (executer persoId restoId db ordre).shared u

/-- A run that is about to debit does so for an invoice that is still unpaid and that no other
run has debited without having settled it yet. -/
def DebitFrais (c : Systeme ι) (i : ι) : Prop :=
  ∀ b p id, c.loc i = .valide b p id →
    NonSoldee c.shared ⟨restoId i, id⟩ ∧
      ∀ j, restoId j = restoId i → ∀ b' p', c.loc j ≠ .debite b' p' id

variable {persoId restoId}

omit [DecidableEq ι] in
theorem preleve_cases (db : Database) (c : Systeme ι) (inv : Invariant persoId restoId db c)
    (i : ι) (p : Number) (id : String) (taken : (c.loc i).preleve = some (p, id)) :
    (∃ b, c.loc i = .debite b p id) ∨ ∃ b, c.loc i = .solde b p id := by
  cases at_ : c.loc i with
  | debite b p' id' =>
      rw [at_] at taken
      cases taken
      exact Or.inl ⟨b, rfl⟩
  | solde b p' id' =>
      rw [at_] at taken
      cases taken
      exact Or.inr ⟨b, rfl⟩
  | erreur avant =>
      rw [at_] at taken
      have picked := Etape.choix_of_preleve avant _ taken
      rw [inv.sansEchec i avant at_] at picked
      cases picked
  | debut => rw [at_] at taken; cases taken
  | balanceLue v => rw [at_] at taken; cases taken
  | valide b p' id' => rw [at_] at taken; cases taken
  | refuse => rw [at_] at taken; cases taken

theorem preleve_pas (c : Systeme ι) (i j : ι) (p : Number × String)
    (taken : ((pas persoId restoId c i).loc j).preleve = some p) :
    (c.loc j).preleve = some p ∨ j = i ∧ ∃ b, c.loc i = .valide b p.1 p.2 := by
  obtain ⟨db', e', result, step⟩ := pas_cases persoId restoId c i
  rw [result] at taken
  by_cases same : j = i
  · subst same
    simp only [Function.update_self] at taken
    cases before : (c.loc j).preleve with
    | some q =>
        have kept := pas_preleve step q before
        rw [taken] at kept
        exact Or.inl kept.symm
    | none => exact Or.inr ⟨rfl, (pas_debite step before p.1 p.2 taken).2⟩
  · simp only [Function.update_of_ne same] at taken
    exact Or.inl taken

theorem preleve_valide (db : Database) (c : Systeme ι) (inv : Invariant persoId restoId db c)
    (i : ι) (b p : Number) (id : String) (at_ : c.loc i = .valide b p id) :
    ((pas persoId restoId c i).loc i).preleve = some (p, id) := by
  obtain ⟨db', e', result, step⟩ := pas_cases persoId restoId c i
  rw [result]
  rw [at_] at step
  simp only [Function.update_self]
  cases step with
  | debit _ _ _ present => rfl
  | exception _ going before => cases before
  | echecDebit _ _ _ absent =>
      have numeric := wallet_present db c inv i b p id at_
      rw [absent] at numeric
      cases numeric
  | repos _ done => exact done.elim

theorem une_fois_avant (c : Systeme ι) (i : ι) (after : UneFois restoId (pas persoId restoId c i)) :
    UneFois restoId c := by
  intro j k p q id same left right
  exact after j k p q id same (preleve_loc c j i _ left) (preleve_loc c k i _ right)

theorem une_fois_pas (db : Database) (c : Systeme ι) (i : ι)
    (inv : Invariant persoId restoId db c) (once : UneFois restoId c) :
    UneFois restoId (pas persoId restoId c i) ↔ DebitFrais restoId c i := by
  constructor
  · intro after b p id at_
    have mine := preleve_valide db c inv i b p id at_
    have alone : ∀ j q, restoId j = restoId i → (c.loc j).preleve = some (q, id) → False := by
      intro j q same taken
      have equal := after j i q p id same (preleve_loc c j i _ taken) mine
      rw [equal, at_] at taken
      cases taken
    constructor
    · have picked := ((inv.locale i).choisie p id (by rw [at_]; rfl)).1
      rcases inv.etat ⟨restoId i, id⟩ with same | regle
      · rw [NonSoldee, same]
        exact picked
      · obtain ⟨j, b', p', resto, paid⟩ := inv.payee _ regle
        exact absurd (by rw [paid]; rfl) (alone j p' resto)
    · intro j same b' p' debited
      exact alone j p' same (by rw [debited]; rfl)
  · intro fresh
    have clash : ∀ j b p q id, c.loc i = .valide b p id → restoId j = restoId i →
        (c.loc j).preleve = some (q, id) → False := by
      intro j b p q id at_ same taken
      obtain ⟨unpaid, others⟩ := fresh b p id at_
      rcases preleve_cases db c inv j q id taken with ⟨b', debited⟩ | ⟨b', paid⟩
      · exact others j same b' q debited
      · have settled := inv.soldee j b' q id paid
        rw [same] at settled
        exact soldee_excludes settled unpaid
    intro j k p q id same left right
    rcases preleve_pas c i j _ left with old | ⟨rfl, b, at_⟩
    · rcases preleve_pas c i k _ right with old' | ⟨rfl, b', at_'⟩
      · exact once j k p q id same old old'
      · exact (clash j b' q p id at_' same old).elim
    · rcases preleve_pas c j k _ right with old' | ⟨rfl, b', at_'⟩
      · exact (clash k b p q id at_ same.symm old').elim
      · rfl

theorem une_fois_executer (db : Database) (ordre : List ι) :
    Machine.Always (pas persoId restoId) (UneFois restoId) (Interleaving.initial db .debut) ordre ↔
      Machine.Along (pas persoId restoId) (DebitFrais restoId)
        (Interleaving.initial db .debut) ordre := by
  apply Machine.always_iff_along (pas persoId restoId) (Invariant persoId restoId db)
  · exact fun c i inv => invariant_pas db c inv i
  · exact fun c i inv once => une_fois_pas db c i inv once
  · exact invariant_initial db
  · intro i j p q id same left right
    cases left

section Quiescence

variable [Fintype ι]

def payeurs (persoId : ι → String) (c : Systeme ι) (u : String) : Finset ι :=
  Finset.univ.filter (fun i => persoId i = u ∧ (c.loc i).preleve.isSome = true)

def factureDe (restoId : ι → String) (c : Systeme ι) (i : ι) : FactureRef :=
  ⟨restoId i, ((c.loc i).preleve.map Prod.snd).getD ""⟩

omit [DecidableEq ι] in
theorem mem_payeurs (c : Systeme ι) (u : String) (i : ι) (member : i ∈ payeurs persoId c u) :
    persoId i = u ∧ ∃ p id, (c.loc i).preleve = some (p, id) := by
  obtain ⟨own, isTaken⟩ := (Finset.mem_filter.mp member).2
  obtain ⟨⟨p, id⟩, taken⟩ := Option.isSome_iff_exists.mp isTaken
  exact ⟨own, p, id, taken⟩

omit [DecidableEq ι] [Fintype ι] in
theorem soldee_of_quiet (db : Database) (c : Systeme ι) (inv : Invariant persoId restoId db c)
    (quiet : AucunEnCours c) (i : ι) (p : Number) (id : String)
    (taken : (c.loc i).preleve = some (p, id)) : Soldee c.shared ⟨restoId i, id⟩ := by
  rcases preleve_cases db c inv i p id taken with ⟨b, debited⟩ | ⟨b, paid⟩
  · rcases quiet i with fresh | done
    · rw [debited] at fresh
      cases fresh
    · rw [debited] at done
      exact done.elim
  · exact inv.soldee i b p id paid

omit [DecidableEq ι] [Fintype ι] in
theorem factureDe_preleve (c : Systeme ι) (i : ι) (p : Number) (id : String)
    (taken : (c.loc i).preleve = some (p, id)) : factureDe restoId c i = ⟨restoId i, id⟩ := by
  simp [factureDe, taken]

omit [DecidableEq ι] in
theorem payeurs_bijection (db : Database) (c : Systeme ι) (inv : Invariant persoId restoId db c)
    (once : UneFois restoId c) (quiet : AucunEnCours c) (u : String) :
    Set.BijOn (factureDe restoId c) (payeurs persoId c u : Set ι)
      {f | Reglee db c.shared f ∧ client? db f = some u} := by
  refine ⟨?_, ?_, ?_⟩
  · intro i member
    obtain ⟨own, p, id, taken⟩ := mem_payeurs c u i (Finset.mem_coe.mp member)
    have picked := (inv.locale i).choisie p id (Etape.choix_of_preleve _ _ taken)
    rw [factureDe_preleve c i p id taken]
    exact ⟨⟨picked.1, soldee_of_quiet db c inv quiet i p id taken⟩, own ▸ picked.2.1⟩
  · intro i left j right same
    obtain ⟨_, p, id, taken⟩ := mem_payeurs c u i (Finset.mem_coe.mp left)
    obtain ⟨_, q, id', taken'⟩ := mem_payeurs c u j (Finset.mem_coe.mp right)
    rw [factureDe_preleve c i p id taken, factureDe_preleve c j q id' taken',
      FactureRef.mk.injEq] at same
    exact once i j p q id same.1 taken (same.2 ▸ taken')
  · intro f member
    obtain ⟨i, b, p, resto, paid⟩ := inv.payee f member.1
    have taken : (c.loc i).preleve = some (p, f.id) := by
      rw [paid]
      rfl
    have client := ((inv.locale i).choisie p f.id (Etape.choix_of_preleve _ _ taken)).2.1
    rw [resto] at client
    have own : persoId i = u := Option.some.inj (client.symm.trans member.2)
    refine ⟨i, Finset.mem_coe.mpr (Finset.mem_filter.mpr ⟨Finset.mem_univ i, own, ?_⟩), ?_⟩
    · rw [taken]
      rfl
    · rw [factureDe_preleve c i p f.id taken, resto]

omit [DecidableEq ι] in
theorem preleves_payeurs (c : Systeme ι) (u : String) :
    preleves persoId c u = ∑ i ∈ payeurs persoId c u, (c.loc i).montant := by
  rw [preleves, ← Finset.sum_filter]
  symm
  apply Finset.sum_subset
  · intro i member
    exact Finset.mem_filter.mpr ⟨Finset.mem_univ i, (mem_payeurs c u i member).1⟩
  · intro i member outside
    have own := (Finset.mem_filter.mp member).2
    cases taken : (c.loc i).preleve with
    | none => simp [Etape.montant, taken]
    | some p =>
        exact absurd
          (Finset.mem_filter.mpr ⟨Finset.mem_univ i, own, by simp [taken]⟩) outside

omit [DecidableEq ι] in
theorem preleves_regles (db : Database) (c : Systeme ι) (inv : Invariant persoId restoId db c)
    (once : UneFois restoId c) (quiet : AucunEnCours c) (u : String) :
    preleves persoId c u = totalRegle db c.shared u := by
  have amounts : ∀ i ∈ (payeurs persoId c u : Set ι),
      (c.loc i).montant = prix db (factureDe restoId c i) := by
    intro i member
    obtain ⟨_, p, id, taken⟩ := mem_payeurs c u i (Finset.mem_coe.mp member)
    have picked := (inv.locale i).choisie p id (Etape.choix_of_preleve _ _ taken)
    rw [factureDe_preleve c i p id taken]
    simp [taken, Etape.montant, prix, picked.2.2.1]
  calc
    preleves persoId c u = ∑ i ∈ payeurs persoId c u, (c.loc i).montant := preleves_payeurs c u
    _ = ∑ᶠ i ∈ (payeurs persoId c u : Set ι), (c.loc i).montant :=
      (finsum_mem_coe_finset _ _).symm
    _ = totalRegle db c.shared u :=
      finsum_mem_eq_of_bijOn _ (payeurs_bijection db c inv once quiet u) amounts

theorem exact_of_une_fois (db : Database) (ordre : List ι)
    (once : UneFois restoId (executer persoId restoId db ordre)) :
    PaiementExact persoId restoId db ordre := by
  refine ⟨once, balance_executer db ordre, fun quiet u => ?_⟩
  rw [← preleves_journal, preleves_regles db _ (invariant_executer db ordre) once quiet]

/-- Charging is exact in every state of an interleaving if and only if each debit of it was
fresh when it was applied. -/
theorem charged_once_iff_fresh (persoId restoId : ι → String) (db : Database) (ordre : List ι) :
    (∀ avant apres, ordre = avant ++ apres →
      PaiementExact persoId restoId db avant) ↔
      Machine.Along (pas persoId restoId) (DebitFrais restoId)
        (Interleaving.initial db .debut) ordre := by
  constructor
  · intro exact_
    rw [← une_fois_executer]
    apply Machine.always_of_last (pas persoId restoId) (fun _ => True) (UneFois restoId)
    · exact fun _ _ _ => trivial
    · exact fun c i _ after => une_fois_avant c i after
    · trivial
    · exact (exact_ ordre [] (by simp)).uneFois
  · intro along avant apres split
    rw [split, Machine.along_append] at along
    apply exact_of_une_fois
    exact Machine.always_last _ _ _ _ ((une_fois_executer db avant).mpr along.1)

end Quiescence

section DoublePaiement

def baseDouble : Database
  | ["utilisateurs"] => OrderedMap.single "u" (Doc.ofFields [("balance", .number (.int 100))])
  | ["restaurants", "R", "transactions"] =>
      OrderedMap.single "f" (Doc.ofFields [("id du client", .string "u"),
        ("etat", .string "Non soldée"), ("prix", .number (.int 30))])
  | _ => OrderedMap.empty

def ordreDouble : List (Fin 2) := [0, 1, 0, 1, 0, 1, 0, 1]

/-- Two taps on 'Continuer' whose steps alternate: both end, 60 has been taken from the account
and the only invoice settled costs 30. -/
theorem two_taps_charge_twice :
    AucunEnCours (executer (fun _ => "u") (fun _ => "R") baseDouble ordreDouble) ∧
    balance? (executer (fun _ => "u") (fun _ => "R") baseDouble ordreDouble).shared "u" =
      some (.int 40) ∧
    ¬ PaiementExact (fun _ => "u") (fun _ => "R") baseDouble ordreDouble := by
  refine ⟨?_, by decide +kernel, ?_⟩
  · have ended : ∀ i, ((executer (fun _ => "u") (fun _ => "R") baseDouble
        ordreDouble).loc i).Termine := by decide +kernel
    exact fun i => Or.inr (ended i)
  · intro exact_
    have same := exact_.uneFois 0 1 (.int 30) (.int 30) "f" rfl (by rfl) (by rfl)
    exact absurd same (by decide)

end DoublePaiement

end EWallet.Facture
