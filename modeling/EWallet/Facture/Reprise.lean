import EWallet.Facture.UneFois
import Mathlib.Logic.Function.Iterate

namespace EWallet.Facture

open Firestore

/-- A run of the handler with no other run in progress, stopped for good after a number of its
awaited calls: the next one fails, or the application is killed. -/
def essai (persoId restoId : String) (appels : ℕ) (db : Database) : Database × Etape :=
  (fun q : Database × Etape => continuer persoId restoId q.1 q.2)^[appels] (db, .debut)

theorem essai_succ (persoId restoId : String) (n : ℕ) (db : Database) :
    essai persoId restoId (n + 1) db = continuer persoId restoId
      (essai persoId restoId n db).1 (essai persoId restoId n db).2 :=
  Function.iterate_succ_apply' _ n _

structure Accepte (db : Database) (persoId restoId : String) (b p : Number) (id : String) :
    Prop where
  wallet : ∃ data, db.doc? utilisateurs persoId = some data ∧ data.number? "balance" = some b
  facture : ∃ data, (facturesNonSoldees db persoId restoId).head? = some (id, data) ∧
    data.number? "prix" = some p
  couvert : (b - p).Nonneg

theorem accepte_facture {db : Database} {persoId restoId : String} {b p : Number} {id : String}
    (accepte : Accepte db persoId restoId b p id) :
    NonSoldee db ⟨restoId, id⟩ ∧ client? db ⟨restoId, id⟩ = some persoId ∧
      prix? db ⟨restoId, id⟩ = some p ∧ (facture? db ⟨restoId, id⟩).isSome := by
  obtain ⟨data, first, price⟩ := accepte.facture
  obtain ⟨found, own, unpaid⟩ := selection_facture db persoId restoId id data first
  simp [NonSoldee, etat?, client?, prix?, found, own, unpaid, price]

theorem essai_accepte {db : Database} {persoId restoId : String} {b p : Number} {id : String}
    (accepte : Accepte db persoId restoId b p id) :
    essai persoId restoId 2 db = (db, .valide b p id) := by
  obtain ⟨wallet, found, holds⟩ := accepte.wallet
  obtain ⟨data, first, price⟩ := accepte.facture
  rw [Doc.number?_iff_field] at holds price
  have unpaid : (facturesNonSoldees db persoId restoId).take 1 = [(id, data)] := by
    rw [List.take_one, first, Option.toList_some]
  have covered := accepte.couvert
  change continuer persoId restoId db (lireBalance db persoId) = _
  simp only [lireBalance, found, holds, continuer, lireFacture, unpaid, price, if_pos covered]

theorem essai_deux (persoId restoId : String) (db : Database) :
    (∃ b p id, Accepte db persoId restoId b p id ∧
      essai persoId restoId 2 db = (db, .valide b p id)) ∨
    ((essai persoId restoId 2 db).1 = db ∧ (essai persoId restoId 2 db).2.Termine ∧
      (essai persoId restoId 2 db).2.message ≠ some "Paiement validé !" ∧
      (essai persoId restoId 2 db).2.preleve = none) := by
  change (∃ b p id, Accepte db persoId restoId b p id ∧
    continuer persoId restoId db (lireBalance db persoId) = (db, .valide b p id)) ∨ _
  change _ ∨ ((continuer persoId restoId db (lireBalance db persoId)).1 = db ∧
    (continuer persoId restoId db (lireBalance db persoId)).2.Termine ∧
    (continuer persoId restoId db (lireBalance db persoId)).2.message ≠ some "Paiement validé !" ∧
    (continuer persoId restoId db (lireBalance db persoId)).2.preleve = none)
  cases found : db.doc? utilisateurs persoId with
  | none =>
      simp only [lireBalance, found, continuer]
      exact Or.inr ⟨trivial, trivial, by simp [Etape.message], rfl⟩
  | some wallet =>
      simp only [lireBalance, found, continuer]
      have step := pas_lireFacture persoId restoId db (wallet.field "balance")
      generalize result : lireFacture db persoId restoId (wallet.field "balance") = e at step
      generalize read : wallet.field "balance" = v at step
      cases step with
      | selection b p id data first price enough =>
          rw [← Doc.number?_iff_field] at read
          exact Or.inl ⟨b, p, id, ⟨⟨wallet, found, read⟩, ⟨data, first, price⟩, enough⟩, rfl⟩
      | refus b p id data first price short =>
          exact Or.inr ⟨trivial, trivial, by simp [Etape.message], rfl⟩
      | exception avant going before =>
          exact Or.inr ⟨trivial, trivial, by simp [Etape.message], rfl⟩
      | repos e done => exact done.elim

inductive Issue (persoId restoId : String) (db : Database) : ℕ → Database → Etape → Prop
  | rien (n : ℕ) (e : Etape)
      (early : n < 2 ∨ ∀ b p id, ¬ Accepte db persoId restoId b p id)
      (silent : e.message ≠ some "Paiement validé !") (untaken : e.preleve = none) :
      Issue persoId restoId db n db e
  | annonce (b p : Number) (id : String) (accepte : Accepte db persoId restoId b p id) :
      Issue persoId restoId db 2 db (.valide b p id)
  | debitSeul (b p : Number) (id : String) (accepte : Accepte db persoId restoId b p id) :
      Issue persoId restoId db 3 (debit db persoId p) (.debite b p id)
  | complet (n : ℕ) (b p : Number) (id : String) (enough : 4 ≤ n)
      (accepte : Accepte db persoId restoId b p id) :
      Issue persoId restoId db n (reglement (debit db persoId p) ⟨restoId, id⟩) (.solde b p id)

theorem essai_un (persoId restoId : String) (db : Database) :
    (essai persoId restoId 1 db).1 = db ∧
      (essai persoId restoId 1 db).2.message ≠ some "Paiement validé !" ∧
      (essai persoId restoId 1 db).2.preleve = none := by
  change db = db ∧ (lireBalance db persoId).message ≠ some "Paiement validé !" ∧
    (lireBalance db persoId).preleve = none
  unfold lireBalance
  split
  · exact ⟨rfl, by simp [Etape.message], rfl⟩
  · exact ⟨rfl, by simp [Etape.message], rfl⟩

theorem essai_trois {db : Database} {persoId restoId : String} {b p : Number} {id : String}
    (accepte : Accepte db persoId restoId b p id) :
    essai persoId restoId 3 db = (debit db persoId p, .debite b p id) := by
  obtain ⟨wallet, found, _⟩ := accepte.wallet
  rw [essai_succ, essai_accepte accepte]
  simp only [continuer, debiter, Database.update, found, Option.isSome_some, if_true]
  rfl

theorem essai_quatre {db : Database} {persoId restoId : String} {b p : Number} {id : String}
    (accepte : Accepte db persoId restoId b p id) :
    essai persoId restoId 4 db =
      (reglement (debit db persoId p) ⟨restoId, id⟩, .solde b p id) := by
  have present : ((debit db persoId p).doc? (transactions restoId) id).isSome := by
    have before := (accepte_facture accepte).2.2.2
    rw [← facture?_debit db persoId p] at before
    exact before
  rw [essai_succ, essai_trois accepte]
  simp only [continuer, solder, Database.update, present, if_true]
  rfl

theorem essai_fin (persoId restoId : String) (db : Database) (m n : ℕ)
    (done : (essai persoId restoId m db).2.Termine) :
    essai persoId restoId (m + n) db = essai persoId restoId m db := by
  induction n with
  | zero => rfl
  | succ n ih => rw [← Nat.add_assoc, essai_succ, ih, continuer_termine _ _ _ _ done]

theorem issue_essai (persoId restoId : String) (db : Database) (n : ℕ) :
    Issue persoId restoId db n (essai persoId restoId n db).1 (essai persoId restoId n db).2 := by
  by_cases early : n < 2
  · have small : n = 0 ∨ n = 1 := by omega
    rcases small with rfl | rfl
    · exact .rien 0 .debut (Or.inl early) (by simp [Etape.message]) rfl
    · obtain ⟨same, silent, untaken⟩ := essai_un persoId restoId db
      rw [same]
      exact .rien 1 _ (Or.inl early) silent untaken
  · rcases essai_deux persoId restoId db with
      ⟨b, p, id, accepte, reached⟩ | ⟨same, done, silent, untaken⟩
    · have stage : n = 2 ∨ n = 3 ∨ 4 ≤ n := by omega
      rcases stage with rfl | rfl | late
      · rw [reached]
        exact .annonce b p id accepte
      · rw [essai_trois accepte]
        exact .debitSeul b p id accepte
      · obtain ⟨extra, rfl⟩ := Nat.exists_eq_add_of_le late
        have ended := essai_quatre accepte
        rw [essai_fin persoId restoId db 4 extra (by rw [ended]; trivial), ended]
        exact .complet _ b p id late accepte
    · obtain ⟨extra, rfl⟩ := Nat.exists_eq_add_of_le (Nat.le_of_not_lt early)
      rw [essai_fin persoId restoId db 2 extra done, same]
      refine .rien _ _ (Or.inr ?_) silent untaken
      intro b p id accepte
      rw [essai_accepte accepte] at done
      exact done

def Paye (db db' : Database) (persoId restoId : String) : Prop :=
  ∃ p id, NonSoldee db ⟨restoId, id⟩ ∧ client? db ⟨restoId, id⟩ = some persoId ∧
    prix? db ⟨restoId, id⟩ = some p ∧
    db' = reglement (debit db persoId p) ⟨restoId, id⟩

/-- What one run has to be: nothing, or one whole payment; and announced only in that case. -/
structure ToutOuRien (db : Database) (persoId restoId : String) (db' : Database) (e : Etape) :
    Prop where
  atomique : db' = db ∨ Paye db db' persoId restoId
  annonce : e.message = some "Paiement validé !" → Paye db db' persoId restoId

theorem paye_soldee {db db' : Database} {persoId restoId : String}
    (paid : Paye db db' persoId restoId) :
    ∃ f, NonSoldee db f ∧ Soldee db' f := by
  obtain ⟨p, id, unpaid, own, _, result⟩ := paid
  refine ⟨⟨restoId, id⟩, unpaid, ?_⟩
  have present : (facture? (debit db persoId p) ⟨restoId, id⟩).isSome := by
    rw [facture?_debit]
    rw [client?] at own
    exact Option.isSome_of_mem (Option.bind_eq_some_iff.mp own).choose_spec.1
  rw [result, soldee_reglement _ _ _ present]
  exact Or.inl rfl

theorem tout_ou_rien_iff (persoId restoId : String) (db : Database) (n : ℕ) :
    ToutOuRien db persoId restoId (essai persoId restoId n db).1 (essai persoId restoId n db).2 ↔
      (n < 2 ∨ 4 ≤ n ∨ ∀ b p id, ¬ Accepte db persoId restoId b p id) := by
  have issue := issue_essai persoId restoId db n
  generalize (essai persoId restoId n db).1 = db' at issue
  generalize (essai persoId restoId n db).2 = e at issue
  cases issue with
  | rien n e early silent untaken =>
      constructor
      · intro _
        tauto
      · intro _
        exact ⟨Or.inl rfl, fun announced => absurd announced silent⟩
  | annonce b p id accepte =>
      refine iff_of_false (fun law => ?_) (fun safe => ?_)
      · obtain ⟨f, unpaid, paid⟩ := paye_soldee (law.annonce rfl)
        exact soldee_excludes paid unpaid
      · rcases safe with early | late | refused
        · omega
        · omega
        · exact refused b p id accepte
  | debitSeul b p id accepte =>
      refine iff_of_false (fun law => ?_) (fun safe => ?_)
      · obtain ⟨f, unpaid, paid⟩ := paye_soldee (law.annonce rfl)
        rw [Soldee, etat?_debit] at paid
        exact soldee_excludes paid unpaid
      · rcases safe with early | late | refused
        · omega
        · omega
        · exact refused b p id accepte
  | complet n b p id enough accepte =>
      refine iff_of_true ?_ (Or.inr (Or.inl enough))
      obtain ⟨unpaid, own, price, _⟩ := accepte_facture accepte
      have paid : Paye db (reglement (debit db persoId p) ⟨restoId, id⟩) persoId restoId :=
        ⟨p, id, unpaid, own, price, rfl⟩
      exact ⟨Or.inr paid, fun _ => paid⟩

structure Tentative where
  persoId : String
  restoId : String
  appels : ℕ

structure Suivi where
  store : Database
  pris : FactureRef → ℚ

def prisPour (restoId : String) (e : Etape) (f : FactureRef) : ℚ :=
  match e.preleve with
  | some (p, id) => if f = ⟨restoId, id⟩ then p.toRat else 0
  | none => 0

def tenter (s : Suivi) (t : Tentative) : Suivi where
  store := (essai t.persoId t.restoId t.appels s.store).1
  pris f := s.pris f +
    prisPour t.restoId (essai t.persoId t.restoId t.appels s.store).2 f

def debutSuivi (db : Database) : Suivi := ⟨db, fun _ => 0⟩

/-- The run is not stopped between its test and its settlement, or its test does not pass. -/
def Sure (s : Suivi) (t : Tentative) : Prop :=
  t.appels < 2 ∨ 4 ≤ t.appels ∨ ∀ b p id, ¬ Accepte s.store t.persoId t.restoId b p id

def Legale (s : Suivi) (t : Tentative) : Prop :=
  ToutOuRien s.store t.persoId t.restoId (essai t.persoId t.restoId t.appels s.store).1
    (essai t.persoId t.restoId t.appels s.store).2

structure Registre (db : Database) (s : Suivi) : Prop where
  prix : ∀ f, prix? s.store f = prix? db f
  pris : ∀ f, s.pris f = 0 ∨ s.pris f = EWallet.prix db f ∧ ¬ NonSoldee s.store f

theorem registre_tenter (db : Database) (s : Suivi) (t : Tentative) (registre : Registre db s)
    (safe : Sure s t) : Registre db (tenter s t) := by
  have issue := issue_essai t.persoId t.restoId s.store t.appels
  simp only [tenter]
  generalize (essai t.persoId t.restoId t.appels s.store).1 = db' at issue
  generalize (essai t.persoId t.restoId t.appels s.store).2 = e at issue
  generalize calls : t.appels = n at issue
  rw [Sure, calls] at safe
  cases issue with
  | rien n e early silent untaken =>
      refine ⟨registre.prix, fun f => ?_⟩
      simp only [prisPour, untaken, add_zero]
      exact registre.pris f
  | annonce b p id accepte =>
      rcases safe with early | late | refused
      · omega
      · omega
      · exact absurd accepte (refused b p id)
  | debitSeul b p id accepte =>
      rcases safe with early | late | refused
      · omega
      · omega
      · exact absurd accepte (refused b p id)
  | complet n b p id enough accepte =>
      obtain ⟨unpaid, _, price, present⟩ := accepte_facture accepte
      have states : ∀ g, etat? (reglement (debit s.store t.persoId p) ⟨t.restoId, id⟩) g =
          if g = ⟨t.restoId, id⟩ then some "Soldé" else etat? s.store g := by
        intro g
        rw [etat?_reglement _ _ _ (by rw [facture?_debit]; exact present), etat?_debit]
      refine ⟨fun f => ?_, fun f => ?_⟩
      · rw [prix?_reglement, prix?_debit]
        exact registre.prix f
      · simp only [prisPour, Etape.preleve, NonSoldee, states]
        by_cases this : f = ⟨t.restoId, id⟩
        · subst this
          rcases registre.pris ⟨t.restoId, id⟩ with nothing | ⟨_, closed⟩
          · rw [registre.prix] at price
            simp [nothing, EWallet.prix, price]
          · exact absurd unpaid closed
        · simp only [if_neg this, add_zero]
          exact registre.pris f

/-- A sequence of runs that may stop anywhere keeps the law of payment, and takes for an invoice
nothing or its price, if and only if none of them is stopped between an accepted test and its
settlement. -/
theorem all_or_nothing_iff_uninterrupted (db : Database) (suite : List Tentative) :
    (Machine.Along tenter Legale (debutSuivi db) suite ∧
      ∀ front back, suite = front ++ back → ∀ f,
        (Machine.run tenter (debutSuivi db) front).pris f = 0 ∨
          (Machine.run tenter (debutSuivi db) front).pris f = prix db f) ↔
      Machine.Along tenter Sure (debutSuivi db) suite := by
  have law : Machine.Along tenter Legale (debutSuivi db) suite ↔
      Machine.Along tenter Sure (debutSuivi db) suite :=
    Machine.along_congr tenter _ _
      (fun s t => tout_ou_rien_iff t.persoId t.restoId s.store t.appels) _ suite
  rw [law, and_iff_left_iff_imp]
  intro safe front back split f
  rw [split, Machine.along_append] at safe
  have registre := Machine.run_invariant tenter (Registre db) Sure
    (fun s t held ok => registre_tenter db s t held ok) (debutSuivi db) front
    ⟨fun _ => rfl, fun _ => Or.inl rfl⟩ safe.1
  rcases registre.pris f with nothing | ⟨once, _⟩
  · exact Or.inl nothing
  · exact Or.inr once

/-- The settlement of the first run fails, and the client pays again: the first run has debited
without settling, and the two together take 60 for an invoice of 30. -/
theorem retry_takes_twice :
    ¬ Machine.Along tenter Legale (debutSuivi baseDouble) [⟨"u", "R", 3⟩, ⟨"u", "R", 4⟩] ∧
      balance? (essai "u" "R" 3 baseDouble).1 "u" = some (.int 70) ∧
      etat? (essai "u" "R" 3 baseDouble).1 ⟨"R", "f"⟩ = some "Non soldée" ∧
      prix baseDouble ⟨"R", "f"⟩ = 30 ∧
      (Machine.run tenter (debutSuivi baseDouble) [⟨"u", "R", 3⟩, ⟨"u", "R", 4⟩]).pris ⟨"R", "f"⟩
        = 60 := by
  have debited : balance? (essai "u" "R" 3 baseDouble).1 "u" = some (.int 70) := by decide +kernel
  have unpaid : etat? (essai "u" "R" 3 baseDouble).1 ⟨"R", "f"⟩ = some "Non soldée" := by
    decide +kernel
  refine ⟨fun law => ?_, debited, unpaid, by decide +kernel, by decide +kernel⟩
  rcases (tout_ou_rien_iff "u" "R" baseDouble 3).mp law.1 with early | late | refused
  · omega
  · omega
  · rcases essai_deux "u" "R" baseDouble with ⟨b, p, id, accepte, _⟩ | ⟨_, _, silent, _⟩
    · exact refused b p id accepte
    · exact silent (by decide +kernel)

end EWallet.Facture
