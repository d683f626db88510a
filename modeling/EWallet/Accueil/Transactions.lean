import EWallet.Commandes.Dates
import EWallet.Library.Decoding
import EWallet.Library.Machine

namespace EWallet.Accueil

open Firestore Commandes

def transactionsDe (persoId : String) : Path := ["utilisateurs", persoId, "transactions"]

structure TransactionTile where
  label : Option String
  incomeOrNot : String
  price : Option Number
  date : ℤ
  deriving DecidableEq

/-- The tile of a document. A field that is missing throws, as does one of another type. -/
def tuile (fromTimestamp : ℤ → ℤ) (data : Doc) : Option TransactionTile := do
  let label ← enTexte (← data "nom du receveur")
  let incomeOrNot := match ← data "type de transaction" with
    | .string "entrée" => "in"
    | _ => "out"
  let price ← enNum (← data "montant")
  let date ← enTimestamp (← data "date")
  return ⟨label, incomeOrNot, price, fromTimestamp date⟩

def TransactionTile.getDate (decalage : ℤ → ℤ) (tile : TransactionTile) : String :=
  let champs := texte decalage tile.date
  toString champs.date.day ++ "/" ++ toString champs.date.month ++ "/" ++
    toString champs.date.year ++ "   " ++ toString champs.hour ++ ":" ++ toString champs.minute

def catList (db : Database) (persoId : String) : List (String × Doc) :=
  db.orderBy (transactionsDe persoId) "date" 10

inductive Historique where
  | texte (message : String)
  | tuiles (liste : List TransactionTile)
  | exception
  deriving DecidableEq

def transacHistory (fromTimestamp : ℤ → ℤ) (db : Database) (persoId : String) : Historique :=
  if (catList db persoId).length = 0 then
    .texte "Vous n'avez effectué aucune transaction pour le moment"
  else
    match (catList db persoId).mapM (fun entry => tuile fromTimestamp entry.2) with
    | some liste => .tuiles liste
    | none => .exception

def toutes (db : Database) (persoId : String) : List (String × Doc) :=
  (db (transactionsDe persoId)).entries

structure Datees (db : Database) (persoId : String) : Prop where
  datee : ∀ entry ∈ toutes db persoId, (entry.2.timestamp? "date").isSome
  distinctes : ((toutes db persoId).map (Database.rang "date")).Nodup

def Historique.tuiles? : Historique → Option (List TransactionTile)
  | .texte _ => some []
  | .tuiles liste => some liste
  | .exception => none

/-- The screen has the tile of each document of the query, in their order. -/
def Tuilees (fromTimestamp : ℤ → ℤ) (db : Database) (persoId : String) : Prop :=
  ∃ liste, (transacHistory fromTimestamp db persoId).tuiles? = some liste ∧
    (catList db persoId).mapM (fun entry => tuile fromTimestamp entry.2) = some liste

/-- The tiles shown are those of the ten transactions with the latest dates, or of all when there
are fewer, each once. -/
def Recentes (fromTimestamp : ℤ → ℤ) (db : Database) (persoId : String) : Prop :=
  Tuilees fromTimestamp db persoId ∧ (catList db persoId).Nodup ∧
    ∀ entry, entry ∈ catList db persoId ↔
      Selection.Largest (Database.rang "date") 10 (toutes db persoId) entry

def Montree (fromTimestamp : ℤ → ℤ) (db : Database) (persoId : String)
    (entry : String × Doc) : Prop :=
  Tuilees fromTimestamp db persoId ∧ entry ∈ catList db persoId

/-- The fields a tile reads are there, and of types it takes. -/
structure Lisible (data : Doc) : Prop where
  receveur : ∃ nom, data "nom du receveur" = some (.nullable nom)
  type : (data "type de transaction").isSome
  montant : data "montant" = some .null ∨ ∃ n, data "montant" = some (.number n)
  date : ∃ t, data "date" = some (.timestamp t)

def ajouter (persoId : String) (db : Database) (entry : String × Doc) : Database :=
  db.set (transactionsDe persoId) entry.1 entry.2

structure Derniere (persoId : String) (db : Database) (entry : String × Doc) : Prop where
  neuve : db.doc? (transactionsDe persoId) entry.1 = none
  datee : (entry.2.timestamp? "date").isSome
  derniere : ∀ other ∈ toutes db persoId,
    Database.rang "date" other < Database.rang "date" entry

theorem enTexte_isSome_iff (v : Value) : (enTexte v).isSome ↔ ∃ nom, v = .nullable nom := by
  constructor
  · intro read
    cases v with
    | null => exact ⟨none, rfl⟩
    | string nom => exact ⟨some nom, rfl⟩
    | _ => cases read
  · rintro ⟨nom, rfl⟩
    rw [enTexte_nullable]
    rfl

theorem enNum_isSome_iff (v : Value) : (enNum v).isSome ↔ v = .null ∨ ∃ n, v = .number n := by
  cases v <;> simp [enNum]

theorem enTimestamp_isSome_iff (v : Value) : (enTimestamp v).isSome ↔ ∃ t, v = .timestamp t := by
  cases v <;> simp [enTimestamp]

theorem tuile_isSome_iff (fromTimestamp : ℤ → ℤ) (data : Doc) :
    (tuile fromTimestamp data).isSome ↔ Lisible data := by
  constructor
  · intro built
    obtain ⟨tile, built⟩ := Option.isSome_iff_exists.mp built
    simp only [tuile, Option.pure_def, Option.bind_eq_bind, Option.bind_eq_some_iff] at built
    obtain ⟨nom, atNom, label, readNom, type, atType, prix, atPrix, price, readPrix, quand,
      atQuand, date, readQuand, _⟩ := built
    obtain ⟨receveur, rfl⟩ := (enTexte_isSome_iff nom).mp (by rw [readNom]; rfl)
    obtain ⟨t, rfl⟩ := (enTimestamp_isSome_iff quand).mp (by rw [readQuand]; rfl)
    refine ⟨⟨receveur, atNom⟩, by rw [atType]; rfl, ?_, ⟨t, atQuand⟩⟩
    rcases (enNum_isSome_iff prix).mp (by rw [readPrix]; rfl) with rfl | ⟨n, rfl⟩
    · exact Or.inl atPrix
    · exact Or.inr ⟨n, atPrix⟩
  · rintro ⟨⟨nom, receveur⟩, type, montant, t, date⟩
    obtain ⟨type, atType⟩ := Option.isSome_iff_exists.mp type
    rcases montant with null | ⟨n, number⟩
    · simp [tuile, receveur, atType, null, date, enNum, enTimestamp]
    · simp [tuile, receveur, atType, number, date, enNum, enTimestamp]

theorem tuilees_iff (fromTimestamp : ℤ → ℤ) (db : Database) (persoId : String) :
    Tuilees fromTimestamp db persoId ↔ ∀ entry ∈ catList db persoId, Lisible entry.2 := by
  have readable : (∀ entry ∈ catList db persoId, Lisible entry.2) ↔
      ((catList db persoId).mapM (fun entry => tuile fromTimestamp entry.2)).isSome := by
    rw [← not_iff_not, Option.not_isSome_iff_eq_none, Decoding.mapM_eq_none_iff]
    simp only [← tuile_isSome_iff fromTimestamp, not_forall, Option.not_isSome_iff_eq_none,
      exists_prop]
  rw [readable, Option.isSome_iff_exists]
  refine exists_congr (fun liste => and_iff_right_of_imp (fun all => ?_))
  rw [transacHistory]
  split
  · rename_i none_
    rw [List.length_eq_zero_iff.mp none_] at all
    exact all
  · rw [all]
    rfl

theorem getDate_fromTimestamp {decalage : ℤ → ℤ} (lecture : Lecture decalage)
    (tile : TransactionTile) (t : ℤ) :
    TransactionTile.getDate decalage { tile with date := fromTimestamp lecture t } =
      TransactionTile.getDate decalage { tile with date := t } := by
  have same := texte_fromTimestamp lecture t
  simp only [fromDateTime] at same
  simp only [TransactionTile.getDate, same]

theorem catList_eq (db : Database) (persoId : String) (datees : Datees db persoId) :
    catList db persoId =
      Selection.smallest (Database.rang "date") 10 (toutes db persoId) := by
  have all : (toutes db persoId).filter (fun entry => (entry.2.timestamp? "date").isSome) =
      toutes db persoId := List.filter_eq_self.mpr datees.datee
  rw [catList, Database.orderBy]
  exact congrArg _ all

theorem mem_catList_of_le_dix (db : Database) (persoId : String) (datees : Datees db persoId)
    (few : (toutes db persoId).length ≤ 10) (entry : String × Doc) :
    entry ∈ catList db persoId ↔ entry ∈ toutes db persoId := by
  rw [catList_eq db persoId datees, Selection.smallest, List.take_of_length_le]
  · exact (Selection.sortOn_perm _ _).mem_iff
  · rw [(Selection.sortOn_perm _ _).length_eq]
    exact few

theorem recentes_iff (fromTimestamp : ℤ → ℤ) (db : Database) (persoId : String)
    (datees : Datees db persoId) :
    Recentes fromTimestamp db persoId ↔
      (toutes db persoId).length ≤ 10 ∧ ∀ entry ∈ toutes db persoId, Lisible entry.2 := by
  have latest : ((catList db persoId).Nodup ∧ ∀ entry, entry ∈ catList db persoId ↔
      Selection.Largest (Database.rang "date") 10 (toutes db persoId) entry) ↔
      (toutes db persoId).length ≤ 10 := by
    rw [catList_eq db persoId datees, Selection.smallest_eq_largest_iff
      (Database.rang "date") (toutes db persoId) datees.distinctes 10 (by decide)]
    exact and_iff_right (Selection.smallest_nodup _ 10 _ datees.distinctes)
  rw [Recentes, latest, and_comm, tuilees_iff]
  refine and_congr_right (fun few => ?_)
  simp only [mem_catList_of_le_dix db persoId datees few]

theorem toutes_ajouter (persoId : String) (db : Database) (entry : String × Doc)
    (derniere : Derniere persoId db entry) :
    (toutes (ajouter persoId db entry) persoId).Perm (entry :: toutes db persoId) := by
  rw [toutes, ajouter, Database.set, Function.update_self]
  exact OrderedMap.insert_perm _ entry.1 entry.2 derniere.neuve

theorem datees_ajouter (persoId : String) (db : Database) (entry : String × Doc)
    (datees : Datees db persoId) (derniere : Derniere persoId db entry) :
    Datees (ajouter persoId db entry) persoId := by
  have added := toutes_ajouter persoId db entry derniere
  constructor
  · intro other member
    rcases List.mem_cons.mp (added.mem_iff.mp member) with rfl | old
    · exact derniere.datee
    · exact datees.datee other old
  · rw [(added.map _).nodup_iff, List.map_cons, List.nodup_cons]
    refine ⟨?_, datees.distinctes⟩
    intro found
    obtain ⟨other, member, same⟩ := List.mem_map.mp found
    exact (derniere.derniere other member).ne same

theorem mem_catList_ajouter_iff (persoId : String) (db : Database) (entry : String × Doc)
    (datees : Datees db persoId) (derniere : Derniere persoId db entry) :
    entry ∈ catList (ajouter persoId db entry) persoId ↔ (toutes db persoId).length < 10 := by
  rw [catList_eq _ persoId (datees_ajouter persoId db entry datees derniere)]
  exact Selection.mem_smallest_later_iff _ _ _ entry datees.distinctes
    (toutes_ajouter persoId db entry derniere) derniere.derniere 10

theorem montree_ajouter_iff (fromTimestamp : ℤ → ℤ) (persoId : String) (db : Database)
    (entry : String × Doc) (datees : Datees db persoId) (derniere : Derniere persoId db entry) :
    Montree fromTimestamp (ajouter persoId db entry) persoId entry ↔
      (toutes db persoId).length + 1 ≤ 10 ∧
        ∀ other ∈ entry :: toutes db persoId, Lisible other.2 := by
  have added := toutes_ajouter persoId db entry derniere
  have after := datees_ajouter persoId db entry datees derniere
  rw [Montree, mem_catList_ajouter_iff persoId db entry datees derniere, and_comm, tuilees_iff]
  refine and_congr_right (fun few => ?_)
  have ten : (toutes (ajouter persoId db entry) persoId).length ≤ 10 := by
    rw [added.length_eq, List.length_cons]
    exact few
  simp only [mem_catList_of_le_dix _ persoId after ten, added.mem_iff]

/-- Where dates are distinct, the tiles shown are those of the ten latest transactions if and only
if there are ten at most and all of them can be read. A transaction later than all others is shown
next if and only if it is the tenth or an earlier one and all can be read. -/
theorem recent_transactions_shown_iff (fromTimestamp : ℤ → ℤ) (db : Database) (persoId : String)
    (datees : Datees db persoId) :
    (Recentes fromTimestamp db persoId ↔
      (toutes db persoId).length ≤ 10 ∧ ∀ entry ∈ toutes db persoId, Lisible entry.2) ∧
    ∀ entry, Derniere persoId db entry →
      (Montree fromTimestamp (ajouter persoId db entry) persoId entry ↔
        (toutes db persoId).length + 1 ≤ 10 ∧
          ∀ other ∈ entry :: toutes db persoId, Lisible other.2) := by
  refine ⟨recentes_iff fromTimestamp db persoId datees, fun entry derniere => ?_⟩
  exact montree_ajouter_iff fromTimestamp persoId db entry datees derniere

theorem catList_figee (persoId : String) (db : Database) (suite : List (String × Doc))
    (datees : Datees db persoId) (full : 10 ≤ (toutes db persoId).length)
    (later : Machine.Along (ajouter persoId) (Derniere persoId) db suite) :
    catList (Machine.run (ajouter persoId) db suite) persoId = catList db persoId := by
  have kept := Machine.run_invariant (ajouter persoId)
    (fun store => Datees store persoId ∧ 10 ≤ (toutes store persoId).length ∧
      catList store persoId = catList db persoId)
    (Derniere persoId) ?_ db suite ⟨datees, full, rfl⟩ later
  · exact kept.2.2
  · rintro store entry ⟨dated, many, same⟩ derniere
    have added := toutes_ajouter persoId store entry derniere
    have next := datees_ajouter persoId store entry dated derniere
    refine ⟨next, ?_, ?_⟩
    · rw [added.length_eq, List.length_cons]
      omega
    · rw [← same, catList_eq _ persoId next, catList_eq _ persoId dated]
      exact Selection.smallest_later_full _ _ _ entry dated.distinctes added derniere.derniere 10
        many

def historique (ids : List String) : Database :=
  (ids.zipIdx.map (fun numbered => (numbered.1, Doc.ofFields
    [("nom du receveur", .string "Chez Ama"), ("type de transaction", .string "sortie"),
      ("montant", .number (.int 1000)), ("date", .timestamp numbered.2)]))).foldl (ajouter "u")
    (fun _ => OrderedMap.empty)

def onzieme : String × Doc :=
  ("K", Doc.ofFields [("nom du receveur", .string "Ada"),
    ("type de transaction", .string "entrée"), ("montant", .number (.int 500)),
    ("date", .timestamp 10)])

def dixIds : List String := ["A", "B", "C", "D", "E", "F", "G", "H", "I", "J"]

theorem two_transactions_shown :
    Recentes (fun t => t) (historique ["A", "B"]) "u" ∧
      Montree (fun t => t) (ajouter "u" (historique ["A", "B"]) onzieme) "u" onzieme := by
  have datees : Datees (historique ["A", "B"]) "u" := ⟨by decide +kernel, by decide +kernel⟩
  have derniere : Derniere "u" (historique ["A", "B"]) onzieme :=
    ⟨by decide +kernel, by decide +kernel, by decide +kernel⟩
  have readable : ∀ other ∈ onzieme :: toutes (historique ["A", "B"]) "u", Lisible other.2 := by
    simp only [← tuile_isSome_iff (fun t => t)]
    decide +kernel
  obtain ⟨recentes, suivante⟩ := recent_transactions_shown_iff (fun t => t) _ "u" datees
  refine ⟨recentes.mpr ⟨by decide +kernel, fun entry member => ?_⟩,
    (suivante onzieme derniere).mpr ⟨by decide +kernel, readable⟩⟩
  exact readable entry (List.mem_cons_of_mem _ member)

/-- An eleventh transaction, later than the ten before it, is not shown: the ten oldest are. -/
theorem eleventh_transaction_not_shown :
    Derniere "u" (historique dixIds) onzieme ∧
      Datees (ajouter "u" (historique dixIds) onzieme) "u" ∧
      (toutes (ajouter "u" (historique dixIds) onzieme) "u").length = 11 ∧
      ¬ Montree (fun t => t) (ajouter "u" (historique dixIds) onzieme) "u" onzieme ∧
      ¬ Recentes (fun t => t) (ajouter "u" (historique dixIds) onzieme) "u" ∧
      (catList (ajouter "u" (historique dixIds) onzieme) "u").map Prod.fst = dixIds ∧
      transacHistory (fun t => t) (ajouter "u" (historique dixIds) onzieme) "u" =
        .tuiles ((List.range 10).map
          (fun n => ⟨some "Chez Ama", "out", some (.int 1000), n⟩)) := by
  have datees : Datees (historique dixIds) "u" := ⟨by decide +kernel, by decide +kernel⟩
  have derniere : Derniere "u" (historique dixIds) onzieme :=
    ⟨by decide +kernel, by decide +kernel, by decide +kernel⟩
  have after := datees_ajouter "u" _ onzieme datees derniere
  have eleven : (toutes (ajouter "u" (historique dixIds) onzieme) "u").length = 11 := by
    decide +kernel
  have ten : (toutes (historique dixIds) "u").length = 10 := by decide +kernel
  refine ⟨derniere, after, eleven, ?_, ?_, by decide +kernel, by decide +kernel⟩
  · rw [montree_ajouter_iff _ "u" _ onzieme datees derniere, ten]
    exact fun shown => absurd shown.1 (by decide)
  · rw [recentes_iff _ _ "u" after, eleven]
    exact fun shown => absurd shown.1 (by decide)

end EWallet.Accueil
