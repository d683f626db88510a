import EWallet.Library.Number
import EWallet.Library.OrderedMap
import EWallet.Library.Selection
import Mathlib.Data.String.Basic

namespace EWallet.Firestore

inductive Value where
  | null
  | bool (b : Bool)
  | number (n : Number)
  | string (s : String)
  | timestamp (micros : Int)
  | array (items : List Value)
  | map (fields : List (String × Value))

mutual

def Value.same : Value → Value → Bool
  | .null, .null => true
  | .bool a, .bool b => a = b
  | .number m, .number n => m = n
  | .string s, .string t => s = t
  | .timestamp t, .timestamp t' => t = t'
  | .array items, .array items' => sameItems items items'
  | .map fields, .map fields' => sameFields fields fields'
  | _, _ => false

def sameItems : List Value → List Value → Bool
  | [], [] => true
  | v :: items, w :: items' => v.same w && sameItems items items'
  | _, _ => false

def sameFields : List (String × Value) → List (String × Value) → Bool
  | [], [] => true
  | (key, v) :: fields, (key', w) :: fields' =>
      decide (key = key') && v.same w && sameFields fields fields'
  | _, _ => false

end

mutual

theorem Value.same_iff (v w : Value) : v.same w = true ↔ v = w := by
  cases v with
  | array items => cases w <;> simp [Value.same, sameItems_iff items]
  | map fields => cases w <;> simp [Value.same, sameFields_iff fields]
  | _ => cases w <;> simp [Value.same]

theorem sameItems_iff (items items' : List Value) :
    sameItems items items' = true ↔ items = items' := by
  cases items with
  | nil => cases items' <;> simp [sameItems]
  | cons v rest =>
      cases items' with
      | nil => simp [sameItems]
      | cons w rest' => simp [sameItems, Value.same_iff v, sameItems_iff rest]

theorem sameFields_iff (fields fields' : List (String × Value)) :
    sameFields fields fields' = true ↔ fields = fields' := by
  cases fields with
  | nil => cases fields' <;> simp [sameFields]
  | cons field rest =>
      obtain ⟨key, v⟩ := field
      cases fields' with
      | nil => simp [sameFields]
      | cons field' rest' => simp [sameFields, Prod.ext_iff, Value.same_iff v, sameFields_iff rest]

end

instance : DecidableEq Value := fun v w => decidable_of_iff _ (Value.same_iff v w)

def Value.kind : Value → ℕ
  | .null => 0
  | .bool _ => 1
  | .number _ => 2
  | .timestamp _ => 3
  | .string _ => 4
  | .array _ => 5
  | .map _ => 6

/-- Whether the order of the store lets the first value stand before the second. -/
def Value.before : Value → Value → Bool
  | .bool a, .bool b => a ≤ b
  | .number m, .number n => m.toRat ≤ n.toRat
  | .timestamp t, .timestamp t' => t ≤ t'
  | .string s, .string t => s ≤ t
  | v, w => v.kind ≤ w.kind

def Value.nullable : Option String → Value
  | some s => .string s
  | none => .null

inductive FieldValue where
  | value (v : Value)
  | increment (by_ : Number)

/-- The increment is applied to the number stored when the write lands; a field that holds no
number is replaced by the operand. -/
def FieldValue.apply (old : Option Value) : FieldValue → Value
  | .value v => v
  | .increment n =>
      match old with
      | some (.number m) => .number (m.increase n)
      | _ => .number n

abbrev Doc := String → Option Value

namespace Doc

def ofFields (fields : List (String × Value)) : Doc := fun key => fields.lookup key

def field (d : Doc) (key : String) : Value := (d key).getD .null

def number? (d : Doc) (key : String) : Option Number :=
  match d key with
  | some (.number n) => some n
  | _ => none

def string? (d : Doc) (key : String) : Option String :=
  match d key with
  | some (.string s) => some s
  | _ => none

def timestamp? (d : Doc) (key : String) : Option Int :=
  match d key with
  | some (.timestamp t) => some t
  | _ => none

theorem number?_iff_field (d : Doc) (key : String) (n : Number) :
    d.number? key = some n ↔ d.field key = .number n := by
  simp only [number?, field]
  cases d key with
  | none => simp
  | some v => cases v <;> simp

def update (d : Doc) (changes : List (String × FieldValue)) : Doc :=
  changes.foldl (fun d change => Function.update d change.1 (some (change.2.apply (d change.1)))) d

theorem update_single (d : Doc) (key other : String) (change : FieldValue) :
    d.update [(key, change)] other =
      if other = key then some (change.apply (d key)) else d other := by
  simp [update, Function.update_apply]

theorem update_other (d : Doc) (key : String) {other : String} (change : FieldValue)
    (different : other ≠ key) : d.update [(key, change)] other = d other := by
  rw [update_single, if_neg different]

theorem update_twice (d : Doc) (key : String) (first second : FieldValue) :
    Doc.update (d.update [(key, first)]) [(key, second)] =
      d.update [(key, .value (second.apply (some (first.apply (d key)))))] := by
  funext other
  rw [update_single, update_single d key other (.value _)]
  split
  · rw [update_single, if_pos rfl]
    rfl
  · rename_i different
    exact update_other d key first different

theorem update_held (d : Doc) (key : String) (v : Value) (held : d key = some v) :
    d.update [(key, .value v)] = d := by
  funext other
  rw [update_single]
  split
  · rename_i same
    rw [same, held]
    rfl
  · rfl

def values (fields : List (String × Value)) : List (String × FieldValue) :=
  fields.map (fun field => (field.1, .value field.2))

theorem lookup_absent (fields : List (String × Value)) (key : String)
    (absent : key ∉ fields.map Prod.fst) : fields.lookup key = none := by
  rw [List.lookup_eq_none_iff]
  intro field member
  rw [bne_iff_ne]
  rintro rfl
  exact absent (List.mem_map_of_mem member)

theorem update_values (d : Doc) (fields : List (String × Value)) (key : String)
    (distinct : (fields.map Prod.fst).Nodup) :
    d.update (values fields) key = (fields.lookup key).or (d key) := by
  induction fields generalizing d with
  | nil => rfl
  | cons first rest ih =>
      obtain ⟨absent, distinct⟩ := List.nodup_cons.mp distinct
      change Doc.update (d.update [(first.1, .value first.2)]) (values rest) key = _
      rw [ih _ distinct, update_single, List.lookup_cons]
      by_cases same : key = first.1
      · subst same
        rw [if_pos rfl, beq_self_eq_true, lookup_absent rest first.1 absent]
        rfl
      · rw [if_neg same, beq_eq_false_iff_ne.mpr same]

theorem lookup_iff_mem (fields : List (String × Value)) (key : String) (v : Value)
    (distinct : (fields.map Prod.fst).Nodup) :
    fields.lookup key = some v ↔ (key, v) ∈ fields := by
  induction fields with
  | nil => simp
  | cons first rest ih =>
      obtain ⟨absent, distinct⟩ := List.nodup_cons.mp distinct
      rw [List.lookup_cons, List.mem_cons, ← ih distinct]
      by_cases same : key = first.1
      · subst same
        simp [lookup_absent rest first.1 absent, Prod.ext_iff, eq_comm]
      · simp [beq_eq_false_iff_ne.mpr same, Prod.ext_iff, same]

theorem update_listed (d : Doc) (fields : List (String × Value)) (field : String × Value)
    (distinct : (fields.map Prod.fst).Nodup) (listed : field ∈ fields) :
    d.update (values fields) field.1 = some field.2 := by
  rw [update_values d fields field.1 distinct,
    (lookup_iff_mem fields field.1 field.2 distinct).mpr listed, Option.some_or]

theorem update_values_eq_self_iff (d : Doc) (fields : List (String × Value))
    (distinct : (fields.map Prod.fst).Nodup) :
    d.update (values fields) = d ↔ ∀ field ∈ fields, d field.1 = some field.2 := by
  constructor
  · intro same field listed
    have given := update_listed d fields field distinct listed
    rwa [same] at given
  · intro held
    funext key
    rw [update_values d fields key distinct]
    cases found : fields.lookup key with
    | none => rfl
    | some v => exact (held _ ((lookup_iff_mem fields key v distinct).mp found)).symm

theorem update_ofFields (old new : List (String × Value))
    (keys : old.map Prod.fst = new.map Prod.fst) (distinct : (new.map Prod.fst).Nodup) :
    (ofFields old).update (values new) = ofFields new := by
  funext key
  by_cases listed : key ∈ new.map Prod.fst
  · obtain ⟨field, member, rfl⟩ := List.mem_map.mp listed
    rw [update_listed _ new field distinct member, ofFields,
      (lookup_iff_mem new field.1 field.2 distinct).mpr member]
  · rw [update_values _ new key distinct, ofFields, ofFields, lookup_absent new key listed,
      lookup_absent old key (keys ▸ listed), Option.or_none]

theorem number?_other (d : Doc) (key : String) {other : String} (change : FieldValue)
    (different : other ≠ key) : Doc.number? (d.update [(key, change)]) other = d.number? other := by
  simp only [number?, update_other d key change different]

theorem string?_other (d : Doc) (key : String) {other : String} (change : FieldValue)
    (different : other ≠ key) : Doc.string? (d.update [(key, change)]) other = d.string? other := by
  simp only [string?, update_other d key change different]

theorem number?_increment (d : Doc) (key : String) (m n : Number)
    (stored : d.number? key = some m) :
    Doc.number? (d.update [(key, .increment n)]) key = some (m.increase n) := by
  simp only [number?] at stored
  split at stored
  · rename_i found
    cases stored
    simp [number?, update_single, FieldValue.apply, found]
  · cases stored

end Doc

abbrev Path := List String

abbrev Database := Path → OrderedMap String Doc

namespace Database

def doc? (db : Database) (path : Path) (id : String) : Option Doc := (db path).get? id

def set (db : Database) (path : Path) (id : String) (doc : Doc) : Database :=
  Function.update db path ((db path).insert id doc)

def change (db : Database) (path : Path) (id : String) (changes : List (String × FieldValue)) :
    Database :=
  Function.update db path ((db path).modify id (fun d => d.update changes))

def update (db : Database) (path : Path) (id : String) (changes : List (String × FieldValue)) :
    Option Database :=
  if (db.doc? path id).isSome then some (db.change path id changes) else none

def isEqualTo (field value : String) (entry : String × Doc) : Bool :=
  entry.2.string? field = some value

def query (db : Database) (path : Path) (conditions : List (String × String)) :
    List (String × Doc) :=
  (db path).entries.filter (fun entry => conditions.all (fun c => isEqualTo c.1 c.2 entry))

/-- `where(field, whereIn: values)`: Firestore rejects an empty list and one of more than ten
values. -/
def whereIn (db : Database) (path : Path) (field : String) (values : List Value) :
    Option (List (String × Doc)) :=
  if values = [] ∨ 10 < values.length then none
  else some ((db path).entries.filter (fun entry =>
    values.any (fun value => entry.2 field = some value)))

def rang (field : String) (entry : String × Doc) : Int := (entry.2.timestamp? field).getD 0

/-- `orderBy(field)` with a limit, on a field that holds timestamps: a document without the field
is not listed. The order is ascending. -/
def orderBy (db : Database) (path : Path) (field : String) (limit : ℕ) : List (String × Doc) :=
  Selection.smallest (rang field) limit
    ((db path).entries.filter (fun entry => (entry.2.timestamp? field).isSome))

theorem doc?_change (db : Database) (path path' : Path) (id id' : String)
    (changes : List (String × FieldValue)) :
    (db.change path id changes).doc? path' id' =
      if path' = path ∧ id' = id then (db.doc? path' id').map (fun d => d.update changes)
      else db.doc? path' id' := by
  by_cases there : path' = path
  · subst there
    simp [doc?, change]
  · simp [doc?, change, there]

theorem doc?_set (db : Database) (path path' : Path) (id id' : String) (doc : Doc) :
    (db.set path id doc).doc? path' id' =
      if path' = path ∧ id' = id then some doc else db.doc? path' id' := by
  by_cases there : path' = path
  · subst there
    simp [doc?, set, OrderedMap.get?_insert]
  · simp [doc?, set, there]

theorem change_other (db : Database) (path : Path) {path' : Path} (id : String)
    (changes : List (String × FieldValue)) (elsewhere : path' ≠ path) :
    db.change path id changes path' = db path' := by
  simp [change, Function.update_of_ne elsewhere]

theorem mem_query (db : Database) (path : Path) (conditions : List (String × String))
    (id : String) (doc : Doc) :
    (id, doc) ∈ db.query path conditions ↔
      db.doc? path id = some doc ∧ ∀ c ∈ conditions, doc.string? c.1 = some c.2 := by
  simp [query, doc?, OrderedMap.get?_eq_some, isEqualTo]

theorem query_pair (db : Database) (path : Path) (first second : String × String) :
    db.query path [first, second] =
      (db.query path [first]).filter (isEqualTo second.1 second.2) := by
  simp [query, List.filter_filter, Bool.and_comm]

theorem query_change (db : Database) (path : Path) (id key : String) (fv : FieldValue)
    (conditions : List (String × String)) (unseen : ∀ c ∈ conditions, c.1 ≠ key) :
    (db.change path id [(key, fv)]).query path conditions =
      (db.query path conditions).map
        (OrderedMap.touch id (fun d : Doc => d.update [(key, fv)])) := by
  rw [query, query, change, Function.update_self]
  apply OrderedMap.filter_modify
  intro value member
  rw [Bool.eq_iff_iff, List.all_eq_true, List.all_eq_true]
  apply forall₂_congr
  intro c inside
  simp only [isEqualTo, Doc.string?_other value key fv (unseen c inside)]

theorem query_change_out (db : Database) (path : Path) (id : String)
    (changes : List (String × FieldValue)) (conditions : List (String × String))
    (c : String × String) (asked : c ∈ conditions)
    (broken : ∀ d : Doc, Doc.string? (d.update changes) c.1 ≠ some c.2) :
    (db.change path id changes).query path conditions =
      (db.query path conditions).filter (fun entry => entry.1 ≠ id) := by
  rw [query, query, change, Function.update_self]
  apply OrderedMap.filter_modify_out
  intro d
  rw [List.all_eq_false]
  exact ⟨c, asked, by simpa [isEqualTo] using broken d⟩

theorem query_sorted (db : Database) (path : Path) (conditions : List (String × String)) :
    (db.query path conditions).Pairwise (fun left right => left.1 < right.1) :=
  (db path).sorted.filter _

theorem query_change_other (db : Database) (path : Path) {path' : Path} (id : String)
    (changes : List (String × FieldValue)) (conditions : List (String × String))
    (elsewhere : path' ≠ path) :
    (db.change path id changes).query path' conditions = db.query path' conditions := by
  rw [query, query, change_other db path id changes elsewhere]

theorem query_set_fresh (db : Database) (path : Path) (id : String) (doc : Doc)
    (conditions : List (String × String)) (fresh : db.doc? path id = none) :
    ((db.set path id doc).query path conditions).Perm
      ((if conditions.all (fun c => isEqualTo c.1 c.2 (id, doc)) then [(id, doc)] else []) ++
        db.query path conditions) := by
  rw [query, query, set, Function.update_self]
  have inserted := ((db path).insert_perm id doc fresh).filter
    (fun entry => conditions.all (fun c => isEqualTo c.1 c.2 entry))
  rw [List.filter_cons] at inserted
  split
  · rename_i met
    rw [if_pos met] at inserted
    exact inserted
  · rename_i unmet
    rw [if_neg unmet] at inserted
    exact inserted

theorem query_set_other (db : Database) (path : Path) {path' : Path} (id : String) (doc : Doc)
    (conditions : List (String × String)) (elsewhere : path' ≠ path) :
    (db.set path id doc).query path' conditions = db.query path' conditions := by
  rw [query, query, set, Function.update_of_ne elsewhere]

theorem ext_doc? (db db' : Database) (same : ∀ path id, db.doc? path id = db'.doc? path id) :
    db = db' := by
  funext path
  exact OrderedMap.ext_get? _ _ (same path)

theorem change_eq_self_iff (db : Database) (path : Path) (id : String) (d : Doc)
    (changes : List (String × FieldValue)) (stored : db.doc? path id = some d) :
    db.change path id changes = db ↔ d.update changes = d := by
  constructor
  · intro same
    have found := doc?_change db path path id id changes
    rw [same, if_pos ⟨rfl, rfl⟩, stored] at found
    exact (Option.some.inj found).symm
  · intro same
    apply ext_doc?
    intro path' id'
    rw [doc?_change]
    split
    · rename_i there
      rw [there.1, there.2, stored, Option.map_some, same]
    · rfl

theorem change_set (db : Database) (path : Path) (id : String) (d : Doc)
    (changes : List (String × FieldValue)) :
    (db.set path id d).change path id changes = db.set path id (d.update changes) := by
  apply ext_doc?
  intro path' id'
  rw [doc?_change, doc?_set, doc?_set]
  split
  · rfl
  · rfl

/-- How `add` draws its ids: never one that is in use in the collection. -/
structure Tirage where
  tirer : Database → Path → String
  neuf : ∀ (db : Database) (path : Path), db.doc? path (tirer db path) = none

def plusLong (db : Database) (path : Path) : String :=
  String.ofList (List.replicate ((db path).entries.foldr (fun e n => max e.1.length n) 0 + 1) 'a')

def tirageLong : Tirage where
  tirer := plusLong
  neuf db path := by
    rw [Option.eq_none_iff_forall_ne_some]
    intro doc found
    rw [doc?, OrderedMap.get?_eq_some] at found
    have bound := Selection.le_foldr_max (fun entry : String × Doc => entry.1.length) _ _ found
    simp only [plusLong, String.length_ofList, List.length_replicate] at bound
    omega

end Database

end EWallet.Firestore
