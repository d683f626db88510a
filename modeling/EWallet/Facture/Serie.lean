import EWallet.Facture.Reprise
import Mathlib.Order.Lattice.Nat
import Mathlib.Algebra.BigOperators.Group.List.Basic
import Mathlib.Tactic.IntervalCases

namespace EWallet.Facture

open Firestore

/-- `n` runs of the handler for one user at one restaurant, none starting before the one before it
has ended: four calls carry a run to its end. -/
def serie (persoId restoId : String) (n : ℕ) (db : Database) : Database :=
  (fun db : Database => (essai persoId restoId 4 db).1)^[n] db

def finDeRun (persoId restoId : String) (i : ℕ) (db : Database) : Etape :=
  (essai persoId restoId 4 (serie persoId restoId i db)).2

theorem serie_succ (persoId restoId : String) (n : ℕ) (db : Database) :
    serie persoId restoId (n + 1) db =
      (essai persoId restoId 4 (serie persoId restoId n db)).1 :=
  Function.iterate_succ_apply' _ n db

/-- What the store leaves of a balance when the first `j` prices have been taken from it, one after
the other. -/
def soldeApres (b : Number) (prixs : List Number) (j : ℕ) : Number :=
  (prixs.take j).foldl Number.decrease b

/-- Each of the first `j` prices passes the test of the handler when its turn comes. -/
def Couvre (b : Number) (prixs : List Number) (j : ℕ) : Prop :=
  ∀ i p, i < j → prixs[i]? = some p → (soldeApres b prixs i - p).Nonneg

theorem soldeApres_succ (b p : Number) (prixs : List Number) (j : ℕ) (at_ : prixs[j]? = some p) :
    soldeApres b prixs (j + 1) = (soldeApres b prixs j).decrease p := by
  rw [soldeApres, List.take_add_one, at_, Option.toList_some, List.foldl_append]
  rfl

theorem couvre_succ (b : Number) (prixs : List Number) (j : ℕ) :
    Couvre b prixs (j + 1) ↔
      Couvre b prixs j ∧ ∀ p, prixs[j]? = some p → (soldeApres b prixs j - p).Nonneg := by
  constructor
  · intro covered
    exact ⟨fun i p early => covered i p (by omega), fun p => covered j p (by omega)⟩
  · rintro ⟨covered, last⟩ i p early
    have stage : i < j ∨ i = j := by omega
    rcases stage with before | rfl
    · exact covered i p before
    · exact last p

theorem plus_grand_existe (b : Number) (prixs : List Number) (n : ℕ) :
    ∃ m, IsGreatest {j | j ≤ min n prixs.length ∧ Couvre b prixs j} m := by
  have start : (0 : ℕ) ∈ {j | j ≤ min n prixs.length ∧ Couvre b prixs j} :=
    ⟨Nat.zero_le _, fun i p early => absurd early (by omega)⟩
  have bounded : BddAbove {j | j ≤ min n prixs.length ∧ Couvre b prixs j} :=
    ⟨min n prixs.length, fun j member => member.1⟩
  exact ⟨_, Nat.sSup_mem ⟨0, start⟩ bounded, fun j member => le_csSup bounded member⟩

theorem facturesNonSoldees_sans (db : Database) (persoId restoId id : String) (data : Doc)
    (first : (facturesNonSoldees db persoId restoId).head? = some (id, data)) :
    (facturesNonSoldees db persoId restoId).filter (fun entry => entry.1 ≠ id) =
      (facturesNonSoldees db persoId restoId).tail := by
  have sorted := Database.query_sorted db (transactions restoId)
    [("id du client", persoId), ("etat", "Non soldée")]
  rw [facturesNonSoldees] at first ⊢
  generalize db.query (transactions restoId) [("id du client", persoId), ("etat", "Non soldée")] =
    found at sorted first
  cases found with
  | nil => rfl
  | cons entry others =>
      simp only [List.head?_cons, Option.some.injEq] at first
      subst first
      rw [List.pairwise_cons] at sorted
      rw [List.filter_cons_of_neg (by simp), List.tail_cons, List.filter_eq_self]
      intro entry member
      simpa using (sorted.1 entry member).ne'

theorem facturesNonSoldees_payee (db : Database) (persoId restoId id : String) (p : Number)
    (data : Doc) (first : (facturesNonSoldees db persoId restoId).head? = some (id, data)) :
    facturesNonSoldees (reglement (debit db persoId p) ⟨restoId, id⟩) persoId restoId =
      (facturesNonSoldees db persoId restoId).tail := by
  have settled : ∀ d : Doc, Doc.string? (d.update [("etat", .value (.string "Soldé"))]) "etat" ≠
      some "Non soldée" := by
    intro d
    simp [Doc.string?, Doc.update_single, FieldValue.apply]
  calc facturesNonSoldees (reglement (debit db persoId p) ⟨restoId, id⟩) persoId restoId
      = (facturesNonSoldees (debit db persoId p) persoId restoId).filter
          (fun entry => entry.1 ≠ id) :=
        Database.query_change_out _ (transactions restoId) id _ _ ("etat", "Non soldée") (by simp)
          settled
    _ = (facturesNonSoldees db persoId restoId).filter (fun entry => entry.1 ≠ id) := by
        rw [facturesNonSoldees, debit,
          Database.query_change_other _ _ _ _ _ (transactions_ne_utilisateurs restoId),
          facturesNonSoldees]
    _ = (facturesNonSoldees db persoId restoId).tail :=
        facturesNonSoldees_sans db persoId restoId id data first

/-- What a store is after the first `m` open invoices of another have been paid one by one: these
are 'Soldé', the wallet holds `solde`, and no other document is touched. -/
structure Payees (persoId restoId : String) (db : Database) (m : ℕ) (solde : Number)
    (db' : Database) : Prop where
  restantes : facturesNonSoldees db' persoId restoId =
    (facturesNonSoldees db persoId restoId).drop m
  soldees : ∀ e ∈ (facturesNonSoldees db persoId restoId).take m,
    db'.doc? (transactions restoId) e.1 = some (e.2.update [("etat", .value (.string "Soldé"))])
  wallet : ∃ data, db.doc? utilisateurs persoId = some data ∧
    db'.doc? utilisateurs persoId = some (data.update [("balance", .value (.number solde))])
  ailleurs : ∀ path id, (path, id) ≠ (utilisateurs, persoId) →
    (path = transactions restoId →
      id ∉ ((facturesNonSoldees db persoId restoId).take m).map Prod.fst) →
    db'.doc? path id = db.doc? path id

theorem payees_zero (persoId restoId : String) (db : Database) (b : Number)
    (wallet : balance? db persoId = some b) : Payees persoId restoId db 0 b db := by
  obtain ⟨data, found, stored⟩ := Option.bind_eq_some_iff.mp wallet
  refine ⟨rfl, by simp, ⟨data, found, ?_⟩, fun _ _ _ _ => rfl⟩
  have held : data "balance" = some (.number b) := by
    rw [Doc.number?] at stored
    split at stored
    · rename_i found
      rw [found, Option.some.inj stored]
    · cases stored
  rw [Doc.update_held data "balance" _ held, found]

theorem payees_succ {persoId restoId : String} {db db' : Database} {m : ℕ}
    {solde b p : Number} {id : String} (payees : Payees persoId restoId db m solde db')
    (accepte : Accepte db' persoId restoId b p id) :
    Payees persoId restoId db (m + 1) (solde.decrease p)
      (reglement (debit db' persoId p) ⟨restoId, id⟩) := by
  obtain ⟨data, first, price⟩ := accepte.facture
  have next : (facturesNonSoldees db persoId restoId)[m]? = some (id, data) := by
    rw [← List.head?_drop, ← payees.restantes, first]
  have upTo : (facturesNonSoldees db persoId restoId).take (m + 1) =
      (facturesNonSoldees db persoId restoId).take m ++ [(id, data)] := by
    rw [List.take_add_one, next, Option.toList_some]
  have found := (selection_facture db' persoId restoId id data first).1
  refine ⟨?_, ?_, ?_, ?_⟩
  · rw [facturesNonSoldees_payee db' persoId restoId id p data first, payees.restantes,
      List.tail_drop]
  · intro e member
    change facture? _ ⟨restoId, e.1⟩ = _
    rw [facture?_reglement, facture?_debit]
    rw [upTo, List.mem_append, List.mem_singleton] at member
    rcases member with before | rfl
    · have settled : facture? db' ⟨restoId, e.1⟩ = some _ := payees.soldees e before
      rw [settled, Option.map_some, Doc.update_twice]
      exact ite_self _
    · rw [if_pos rfl, found, Option.map_some]
  · obtain ⟨wallet, before, now⟩ := payees.wallet
    refine ⟨wallet, before, ?_⟩
    rw [doc?_reglement, doc?_debit, if_pos rfl, now, Option.map_some, Doc.update_twice]
    rfl
  · intro path other notWallet notListed
    rw [upTo, List.map_append, List.mem_append, not_or] at notListed
    have notNext : ¬ (path = transactions restoId ∧ other = id) := by
      rintro ⟨there, same⟩
      exact (notListed there).2 (by simp [same])
    have notDebited : ¬ (path = utilisateurs ∧ other = persoId) := by
      rintro ⟨rfl, rfl⟩
      exact notWallet rfl
    rw [reglement, Database.doc?_change, if_neg notNext, debit, Database.doc?_change,
      if_neg notDebited]
    exact payees.ailleurs path other notWallet (fun there => (notListed there).1)

theorem essai_vide (persoId restoId : String) (db : Database) (wallet : Doc)
    (found : db.doc? utilisateurs persoId = some wallet)
    (none_ : facturesNonSoldees db persoId restoId = []) :
    essai persoId restoId 4 db = (db, .erreur (.balanceLue (wallet.field "balance"))) := by
  have ended : essai persoId restoId 2 db =
      (db, .erreur (.balanceLue (wallet.field "balance"))) := by
    change continuer persoId restoId db (lireBalance db persoId) = _
    simp only [lireBalance, found, continuer, lireFacture, none_, List.take_nil]
  exact (essai_fin persoId restoId db 2 2 (by rw [ended]; trivial)).trans ended

theorem essai_refus (persoId restoId : String) (db : Database) (wallet data : Doc) (id : String)
    (b p : Number) (found : db.doc? utilisateurs persoId = some wallet)
    (holds : wallet.number? "balance" = some b)
    (first : (facturesNonSoldees db persoId restoId).head? = some (id, data))
    (price : data.number? "prix" = some p) (short : ¬ (b - p).Nonneg) :
    essai persoId restoId 4 db = (db, .refuse) := by
  have ended : essai persoId restoId 2 db = (db, .refuse) := by
    have selected : (facturesNonSoldees db persoId restoId).take 1 = [(id, data)] := by
      rw [List.take_one, first, Option.toList_some]
    rw [Doc.number?_iff_field] at holds price
    change continuer persoId restoId db (lireBalance db persoId) = _
    simp only [lireBalance, found, continuer, lireFacture, selected, holds, price,
      if_neg short]
  exact (essai_fin persoId restoId db 2 2 (by rw [ended]; trivial)).trans ended

theorem payees_lecture {persoId restoId : String} {db db' : Database} {m : ℕ} {solde p : Number}
    {prixs : List Number} (payees : Payees persoId restoId db m solde db')
    (prices : (facturesNonSoldees db persoId restoId).map (fun e => e.2.number? "prix") =
      prixs.map some) (at_ : prixs[m]? = some p) :
    ∃ wallet id data, (db'.doc? utilisateurs persoId = some wallet ∧
        wallet.number? "balance" = some solde) ∧
      (facturesNonSoldees db persoId restoId)[m]? = some (id, data) ∧
      (facturesNonSoldees db' persoId restoId).head? = some (id, data) ∧
      data.number? "prix" = some p := by
  obtain ⟨before, _, now⟩ := payees.wallet
  have read := congrArg (fun l => l[m]?) prices
  simp only [List.getElem?_map, at_, Option.map_some, Option.map_eq_some_iff] at read
  obtain ⟨⟨id, data⟩, here, price⟩ := read
  refine ⟨_, id, data, ⟨now, ?_⟩, here, ?_, price⟩
  · simp [Doc.number?, Doc.update_single, FieldValue.apply]
  · rw [payees.restantes, List.head?_drop, here]

theorem serie_payees {persoId restoId : String} {db : Database} {b : Number} {prixs : List Number}
    (wallet : balance? db persoId = some b)
    (prices : (facturesNonSoldees db persoId restoId).map (fun e => e.2.number? "prix") =
      prixs.map some) (m : ℕ) (within : m ≤ prixs.length) (covered : Couvre b prixs m) :
    Payees persoId restoId db m (soldeApres b prixs m) (serie persoId restoId m db) ∧
      ∀ i, i < m → ∃ solde p e, (facturesNonSoldees db persoId restoId)[i]? = some e ∧
        finDeRun persoId restoId i db = .solde solde p e.1 := by
  induction m with
  | zero => exact ⟨payees_zero persoId restoId db b wallet, fun i early => absurd early (by omega)⟩
  | succ m ih =>
      rw [couvre_succ] at covered
      obtain ⟨payees, ends⟩ := ih (by omega) covered.1
      have at_ : prixs[m]? = some prixs[m] := List.getElem?_eq_getElem (by omega)
      obtain ⟨data, id, facture, ⟨found, holds⟩, here, first, price⟩ :=
        payees_lecture payees prices at_
      have accepte : Accepte (serie persoId restoId m db) persoId restoId (soldeApres b prixs m)
          prixs[m] id :=
        ⟨⟨data, found, holds⟩, ⟨facture, first, price⟩, covered.2 prixs[m] at_⟩
      have run := essai_quatre accepte
      constructor
      · rw [serie_succ, run, soldeApres_succ b prixs[m] prixs m at_]
        exact payees_succ payees accepte
      · intro i early
        have stage : i < m ∨ i = m := by omega
        rcases stage with before | rfl
        · exact ends i before
        · exact ⟨soldeApres b prixs i, prixs[i], (id, facture), here, by rw [finDeRun, run]⟩

theorem serie_arretee (persoId restoId : String) (db : Database) (m i : ℕ) (late : m ≤ i)
    (still : (essai persoId restoId 4 (serie persoId restoId m db)).1 =
      serie persoId restoId m db) :
    serie persoId restoId i db = serie persoId restoId m db := by
  induction i, late using Nat.le_induction with
  | base => rfl
  | succ i late ih => rw [serie_succ, ih, still]

theorem essai_bloque {persoId restoId : String} {db db' : Database} {m : ℕ} {solde : Number}
    {prixs : List Number} (payees : Payees persoId restoId db m solde db')
    (prices : (facturesNonSoldees db persoId restoId).map (fun e => e.2.number? "prix") =
      prixs.map some) (blocked : ∀ p, prixs[m]? = some p → ¬ (solde - p).Nonneg) :
    ∃ fin, essai persoId restoId 4 db' = (db', fin) ∧ (m < prixs.length → fin = .refuse) ∧
      (m = prixs.length → ∃ avant, fin = .erreur avant) := by
  by_cases left : m < prixs.length
  · have at_ : prixs[m]? = some prixs[m] := List.getElem?_eq_getElem left
    obtain ⟨wallet, id, data, ⟨found, holds⟩, _, first, price⟩ := payees_lecture payees prices at_
    have refused := essai_refus persoId restoId db' wallet data id solde prixs[m] found holds first
      price (blocked _ at_)
    exact ⟨.refuse, refused, fun _ => rfl, fun all => absurd left (by omega)⟩
  · have count : (facturesNonSoldees db persoId restoId).length = prixs.length := by
      simpa using congrArg List.length prices
    have none_ : facturesNonSoldees db' persoId restoId = [] := by
      rw [payees.restantes, List.drop_eq_nil_iff]
      omega
    obtain ⟨_, _, found⟩ := payees.wallet
    exact ⟨_, essai_vide persoId restoId db' _ found none_, fun less => absurd less left,
      fun _ => ⟨_, rfl⟩⟩

theorem plus_grand_bloque (b : Number) (prixs : List Number) (n m : ℕ)
    (greatest : IsGreatest {j | j ≤ min n prixs.length ∧ Couvre b prixs j} m) (more : m < n)
    (p : Number) (at_ : prixs[m]? = some p) : ¬ (soldeApres b prixs m - p).Nonneg := by
  intro cheap
  have left : m < prixs.length := (List.getElem?_eq_some_iff.mp at_).1
  have next : Couvre b prixs (m + 1) := by
    refine (couvre_succ b prixs m).mpr ⟨greatest.1.2, fun q here => ?_⟩
    rwa [← Option.some.inj (at_.symm.trans here)]
  have longer := greatest.2 ⟨by omega, next⟩
  omega

section Entiers

theorem sum_take_succ (prixs : List Int) (j : ℕ) (p : Int) (at_ : prixs[j]? = some p) :
    (prixs.take (j + 1)).sum = (prixs.take j).sum + p := by
  rw [List.take_add_one, at_, Option.toList_some, List.sum_append, List.sum_singleton]

theorem abs_sum_take (prixs : List Int) (j : ℕ) :
    ((prixs.take j).map abs).sum ≤ (prixs.map abs).sum := by
  exact ((List.take_sublist j prixs).map abs).sum_le_sum (by simp)

theorem soldeApres_int (b : Int) (prixs : List Int) (j : ℕ)
    (room : |b| + (prixs.map abs).sum < 2 ^ 63) :
    soldeApres (.int b) (prixs.map .int) j = .int (b - (prixs.take j).sum) := by
  rw [soldeApres, ← List.map_take]
  have part := abs_sum_take prixs j
  exact Number.foldl_decrease_int b _ (by omega)

theorem couvre_int (b : Int) (prixs : List Int) (room : |b| + (prixs.map abs).sum < 2 ^ 63) (j : ℕ)
    (within : j ≤ prixs.length) :
    Couvre (.int b) (prixs.map .int) j ↔ ∀ i, 1 ≤ i → i ≤ j → (prixs.take i).sum ≤ b := by
  induction j with
  | zero =>
      exact iff_of_true (fun i p early => absurd early (by omega)) (fun i low high => by omega)
  | succ j ih =>
      have at_ : prixs[j]? = some prixs[j] := List.getElem?_eq_getElem (by omega)
      have test : (∀ p, (prixs.map Number.int)[j]? = some p →
          (soldeApres (.int b) (prixs.map .int) j - p).Nonneg) ↔ (prixs.take (j + 1)).sum ≤ b := by
        have total := sum_take_succ prixs j prixs[j] at_
        have part := abs_sum_take prixs (j + 1)
        rw [List.take_add_one, at_, Option.toList_some, List.map_append, List.sum_append] at part
        have size := List.le_sum_of_subadditive abs abs_zero.le abs_add_le (prixs.take j)
        have left := abs_sub b (prixs.take j).sum
        rw [List.getElem?_map, at_, Option.map_some, soldeApres_int b prixs j room]
        simp only [Option.some.injEq, forall_eq', List.map_singleton, List.sum_singleton] at part ⊢
        rw [Number.sub_int _ _ (by omega)]
        change 0 ≤ b - (prixs.take j).sum - prixs[j] ↔ _
        omega
      rw [couvre_succ, ih (by omega), test]
      constructor
      · rintro ⟨before, last⟩ i low high
        have stage : i ≤ j ∨ i = j + 1 := by omega
        rcases stage with early | rfl
        · exact before i low early
        · exact last
      · intro all
        exact ⟨fun i low high => all i low (by omega), all (j + 1) (by omega) le_rfl⟩

end Entiers

/-- A series of runs settles the longest run of first invoices that pass the test one after the
other; the runs after these are refused, or fail for want of an invoice, and change nothing. On
integers that stay within 64 bits, these are the first invoices whose partial sums the balance
covers, and exactly their sum is taken. -/
theorem series_settles_covered_prefix (persoId restoId : String) (db : Database) (b : Number)
    (prixs : List Number) (n : ℕ) (wallet : balance? db persoId = some b)
    (prices : (facturesNonSoldees db persoId restoId).map (fun e => e.2.number? "prix") =
      prixs.map some) :
    (∃ m, IsGreatest {j | j ≤ min n prixs.length ∧ Couvre b prixs j} m ∧
      Payees persoId restoId db m (soldeApres b prixs m) (serie persoId restoId n db) ∧
      (∀ i, i < m → ∃ solde p e, (facturesNonSoldees db persoId restoId)[i]? = some e ∧
        finDeRun persoId restoId i db = .solde solde p e.1) ∧
      ∀ i, m ≤ i → i < n →
        serie persoId restoId (i + 1) db = serie persoId restoId i db ∧
        (m < prixs.length → finDeRun persoId restoId i db = .refuse) ∧
        (m = prixs.length → ∃ avant, finDeRun persoId restoId i db = .erreur avant)) ∧
    ∀ (entier : Int) (entiers : List Int), b = .int entier → prixs = entiers.map .int →
      |entier| + (entiers.map abs).sum < 2 ^ 63 → ∀ j ≤ prixs.length,
        (Couvre b prixs j ↔ ∀ i, 1 ≤ i → i ≤ j → (entiers.take i).sum ≤ entier) ∧
        soldeApres b prixs j = .int (entier - (entiers.take j).sum) := by
  constructor
  · obtain ⟨m, greatest⟩ := plus_grand_existe b prixs n
    have within : m ≤ min n prixs.length := greatest.1.1
    obtain ⟨payees, ends⟩ := serie_payees wallet prices m (by omega) greatest.1.2
    have after : m < n → ∃ fin, essai persoId restoId 4 (serie persoId restoId m db) =
        (serie persoId restoId m db, fin) ∧ (m < prixs.length → fin = .refuse) ∧
          (m = prixs.length → ∃ avant, fin = .erreur avant) := fun more =>
      essai_bloque payees prices (plus_grand_bloque b prixs n m greatest more)
    refine ⟨m, greatest, ?_, ends, ?_⟩
    · by_cases more : m < n
      · obtain ⟨fin, run, _⟩ := after more
        rw [serie_arretee persoId restoId db m n more.le (by rw [run])]
        exact payees
      · have all : n = m := by omega
        rw [all]
        exact payees
    · intro i late inside
      obtain ⟨fin, run, refused, failed⟩ := after (by omega)
      have here := serie_arretee persoId restoId db m i late (by rw [run])
      refine ⟨?_, ?_⟩
      · rw [serie_succ, here, run]
      · rw [finDeRun, here, run]
        exact ⟨refused, failed⟩
  · rintro entier entiers rfl rfl room j within
    rw [List.length_map] at within
    exact ⟨couvre_int entier entiers room j within, soldeApres_int entier entiers j room⟩

def baseSerie (prixs : List Number) : Database
  | ["utilisateurs"] => OrderedMap.single "u" (Doc.ofFields [("balance", .number (.int 100))])
  | ["restaurants", "R", "transactions"] =>
      (prixs.zip ["f1", "f2", "f3"]).foldl (fun factures e => factures.insert e.2 (factureDe e.1))
        OrderedMap.empty
  | _ => OrderedMap.empty
where
  factureDe (prix : Number) : Doc := Doc.ofFields [("id du client", .string "u"),
    ("etat", .string "Non soldée"), ("prix", .number prix)]

theorem two_of_three_settled :
    Payees "u" "R" (baseSerie [.int 30, .int 70, .int 1]) 2 (.int 0)
        (serie "u" "R" 5 (baseSerie [.int 30, .int 70, .int 1])) ∧
      ∀ i, 2 ≤ i → i < 5 →
        finDeRun "u" "R" i (baseSerie [.int 30, .int 70, .int 1]) = .refuse := by
  obtain ⟨⟨m, greatest, payees, _, idle⟩, entiers⟩ := series_settles_covered_prefix "u" "R"
    (baseSerie [.int 30, .int 70, .int 1]) (.int 100) [.int 30, .int 70, .int 1] 5
    (by decide +kernel) (by decide +kernel)
  have exact_ := entiers 100 [30, 70, 1] rfl rfl (by decide +kernel)
  have two := (exact_ 2 (by decide)).1.mpr (by intro i low high; interval_cases i <;> decide)
  have three : ¬ Couvre (.int 100) [.int 30, .int 70, .int 1] 3 := by
    intro covered
    exact absurd ((exact_ 3 (by decide)).1.mp covered 3 (by decide) le_rfl) (by decide)
  have same : m = 2 := by
    have low := greatest.2 ⟨by decide, two⟩
    have high : m ≤ 3 := greatest.1.1
    have other : m ≠ 3 := by
      rintro rfl
      exact three greatest.1.2
    omega
  subst same
  rw [(exact_ 2 (by decide)).2] at payees
  exact ⟨payees, fun i late inside => (idle i late inside).2.1 (by decide)⟩

/-- Two runs for invoices of 0.1 and 99.9, whose sum is more than the 100 on the account: each of
them passes the test, and both are paid. -/
theorem tenths_settled_beyond_sum :
    let db := baseSerie [.double (.ofRat (1 / 10)), .double (.ofRat (999 / 10))]
    (100 : ℚ) < prix db ⟨"R", "f1"⟩ + prix db ⟨"R", "f2"⟩ ∧
      etat? (serie "u" "R" 2 db) ⟨"R", "f1"⟩ = some "Soldé" ∧
      etat? (serie "u" "R" 2 db) ⟨"R", "f2"⟩ = some "Soldé" := by
  decide +kernel

end EWallet.Facture
