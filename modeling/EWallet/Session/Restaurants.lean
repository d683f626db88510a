import EWallet.Session.Favoris

namespace EWallet.Session

open Firestore Commandes

/-- `as double`: null passes, and a stored integer throws as any other value does. -/
def enDouble : Value → Option (Option Binary64)
  | .null => some none
  | .number (.double x) => some (some x)
  | _ => none

def doubleNullable : Option Binary64 → Value
  | some x => .number (.double x)
  | none => .null

structure Restaurant where
  name : Option String
  location : Option String
  note : Option Binary64
  reference : Option String
  deriving DecidableEq

namespace Restaurant

def toJson (restaurant : Restaurant) : List (String × Value) :=
  [("name", .nullable restaurant.name), ("location", .nullable restaurant.location),
    ("note", doubleNullable restaurant.note)]

def fromJson (json : Doc) : Option Restaurant := do
  let name ← enTexte (json.field "name")
  let location ← enTexte (json.field "notes")
  let note ← enDouble (json.field "type")
  return ⟨name, location, note, none⟩

def fromSnapshot (id : String) (data : Doc) : Option Restaurant :=
  (fromJson data).map (fun restaurant => { restaurant with reference := some id })

def champs (restaurant : Restaurant) : Option String × Option String × Option Binary64 :=
  (restaurant.name, restaurant.location, restaurant.note)

end Restaurant

def addRestaurant (tirage : Database.Tirage) (db : Database) (restaurant : Restaurant) : Database :=
  db.set restaurants (tirage.tirer db restaurants) (Doc.ofFields restaurant.toJson)

/-- It fails on a restaurant that was not read from the store, and on one that is gone. -/
def updateRestaurant (db : Database) (restaurant : Restaurant) : Option Database := do
  let id ← restaurant.reference
  db.update restaurants id (Doc.values restaurant.toJson)

def reecrire (db : Database) (id : String) : Option Database := do
  let data ← db.doc? restaurants id
  let restaurant ← Restaurant.fromSnapshot id data
  updateRestaurant db restaurant

@[simp] theorem enTexte_null : enTexte .null = some none := rfl

@[simp] theorem enDouble_null : enDouble .null = some none := rfl

@[simp] theorem nullable_eq_iff (s : Option String) :
    Value.nullable s = .nullable none ↔ s = none := by
  cases s <;> simp [Value.nullable]

@[simp] theorem doubleNullable_eq_iff (note : Option Binary64) :
    doubleNullable note = doubleNullable none ↔ note = none := by
  cases note <;> simp [doubleNullable]

theorem toJson_distinct (restaurant : Restaurant) : (restaurant.toJson.map Prod.fst).Nodup := by
  simp [Restaurant.toJson]

theorem fromJson_toJson (restaurant : Restaurant) :
    Restaurant.fromJson (Doc.ofFields restaurant.toJson) =
      some ⟨restaurant.name, none, none, none⟩ := by
  simp [Restaurant.fromJson, Restaurant.toJson, Doc.field, Doc.ofFields, List.lookup_cons]

theorem codec_iff (restaurant : Restaurant) :
    (Restaurant.fromJson (Doc.ofFields restaurant.toJson)).map Restaurant.champs =
        some restaurant.champs ↔
      restaurant.location = none ∧ restaurant.note = none := by
  rw [fromJson_toJson]
  simp [Restaurant.champs, eq_comm]

theorem reecrire_eq (db : Database) (id : String) (data : Doc) (restaurant : Restaurant)
    (stored : db.doc? restaurants id = some data)
    (decoded : Restaurant.fromJson data = some restaurant) :
    reecrire db id = some (db.change restaurants id (Doc.values restaurant.toJson)) := by
  have written : Restaurant.toJson { restaurant with reference := some id } =
      restaurant.toJson := rfl
  simp [reecrire, stored, Restaurant.fromSnapshot, decoded, updateRestaurant, written,
    Database.update]

theorem reecrire_eq_self_iff (db : Database) (id : String) (data : Doc) (restaurant : Restaurant)
    (stored : db.doc? restaurants id = some data)
    (decoded : Restaurant.fromJson data = some restaurant) :
    reecrire db id = some db ↔ ∀ field ∈ restaurant.toJson, data field.1 = some field.2 := by
  rw [reecrire_eq db id data restaurant stored decoded, Option.some.injEq,
    Database.change_eq_self_iff db restaurants id data _ stored,
    Doc.update_values_eq_self_iff data _ (toJson_distinct restaurant)]

theorem fromJson_reecrit (data : Doc) (restaurant : Restaurant)
    (decoded : Restaurant.fromJson data = some restaurant) :
    Restaurant.fromJson (data.update (Doc.values restaurant.toJson)) = some restaurant := by
  have name : Doc.field (data.update (Doc.values restaurant.toJson)) "name" =
      .nullable restaurant.name := by
    rw [Doc.field, Doc.update_listed data restaurant.toJson ("name", _)
      (toJson_distinct restaurant) List.mem_cons_self, Option.getD_some]
  have other : ∀ key, key ≠ "name" → key ≠ "location" → key ≠ "note" →
      Doc.field (data.update (Doc.values restaurant.toJson)) key = data.field key := by
    intro key first second third
    rw [Doc.field, Doc.update_values _ _ _ (toJson_distinct restaurant),
      Doc.lookup_absent _ _ (by simp [Restaurant.toJson, first, second, third])]
    rfl
  rw [Restaurant.fromJson, name, other "notes" (by decide) (by decide) (by decide),
    other "type" (by decide) (by decide) (by decide), enTexte_nullable]
  simp only [Restaurant.fromJson, Option.bind_eq_bind, Option.bind_eq_some_iff] at decoded
  obtain ⟨read, _, location, locationRead, note, noteRead, same⟩ := decoded
  simp [locationRead, noteRead, ← Option.some.inj same]

theorem reecrire_twice (db db' : Database) (id : String) (written : reecrire db id = some db') :
    reecrire db' id = some db' := by
  cases stored : db.doc? restaurants id with
  | none =>
      rw [reecrire, stored] at written
      cases written
  | some data =>
      cases decoded : Restaurant.fromJson data with
      | none =>
          simp [reecrire, stored, Restaurant.fromSnapshot, decoded] at written
      | some restaurant =>
          rw [reecrire_eq db id data restaurant stored decoded] at written
          have now : db'.doc? restaurants id =
              some (data.update (Doc.values restaurant.toJson)) := by
            rw [← Option.some.inj written, Database.doc?_change, if_pos ⟨rfl, rfl⟩, stored]
            rfl
          have again := fromJson_reecrit data restaurant decoded
          rw [reecrire_eq_self_iff db' id _ restaurant now again]
          intro field listed
          exact Doc.update_listed data _ field (toJson_distinct restaurant) listed

theorem reecrire_kept_iff (store : Database) (id : String) (restaurant : Restaurant)
    (kept : store.doc? restaurants id = some (Doc.ofFields restaurant.toJson)) :
    reecrire store id = some store ↔ restaurant.location = none ∧ restaurant.note = none := by
  rw [reecrire_eq_self_iff store id _ _ kept (fromJson_toJson restaurant)]
  simp [Restaurant.toJson, Doc.ofFields, List.lookup_cons]

theorem doc?_addRestaurant (tirage : Database.Tirage) (db : Database) (restaurant : Restaurant) :
    (addRestaurant tirage db restaurant).doc? restaurants (tirage.tirer db restaurants) =
      some (Doc.ofFields restaurant.toJson) := by
  rw [addRestaurant, Database.doc?_set, if_pos ⟨rfl, rfl⟩]

theorem reecrire_addRestaurant (tirage : Database.Tirage) (db : Database)
    (restaurant : Restaurant) :
    reecrire (addRestaurant tirage db restaurant) (tirage.tirer db restaurants) =
      some (addRestaurant tirage db { restaurant with location := none, note := none }) := by
  have lost := Doc.update_ofFields restaurant.toJson
    (Restaurant.toJson ⟨restaurant.name, none, none, none⟩) rfl (toJson_distinct _)
  rw [reecrire_eq _ _ _ _ (doc?_addRestaurant tirage db restaurant) (fromJson_toJson restaurant),
    addRestaurant, Database.change_set, lost]
  rfl

/-- A restaurant is decoded as it was encoded if and only if it has no location and no note. As
long as the store holds the document that `addRestaurant` wrote, reading it and writing it back
leaves it unchanged under the same condition only. -/
theorem restaurant_round_trip_iff (tirage : Database.Tirage) (db store : Database)
    (restaurant : Restaurant)
    (kept : store.doc? restaurants (tirage.tirer db restaurants) =
      (addRestaurant tirage db restaurant).doc? restaurants (tirage.tirer db restaurants)) :
    ((Restaurant.fromJson (Doc.ofFields restaurant.toJson)).map Restaurant.champs =
        some restaurant.champs ↔ restaurant.location = none ∧ restaurant.note = none) ∧
      (reecrire store (tirage.tirer db restaurants) = some store ↔
        restaurant.location = none ∧ restaurant.note = none) := by
  rw [doc?_addRestaurant] at kept
  exact ⟨codec_iff restaurant, reecrire_kept_iff store _ restaurant kept⟩

def magasinVide : Database := fun _ => OrderedMap.empty

def sansNote : Restaurant := ⟨some "Chez Ama", none, none, none⟩

theorem name_only_round_trips :
    (Restaurant.fromJson (Doc.ofFields sansNote.toJson)).map Restaurant.champs =
        some sansNote.champs ∧
      reecrire (addRestaurant Database.tirageLong magasinVide sansNote)
          (Database.tirageLong.tirer magasinVide restaurants) =
        some (addRestaurant Database.tirageLong magasinVide sansNote) := by
  obtain ⟨codec, stored⟩ := restaurant_round_trip_iff Database.tirageLong magasinVide
    (addRestaurant Database.tirageLong magasinVide sansNote) sansNote rfl
  exact ⟨codec.mpr ⟨rfl, rfl⟩, stored.mpr ⟨rfl, rfl⟩⟩

def chezAma : Restaurant := ⟨some "Chez Ama", some "Cocody", some (.ofRat (9 / 2)), none⟩

/-- A restaurant with a location and a note: both are decoded as null, and the write-back stores
null over them. -/
theorem location_and_note_lost :
    Restaurant.fromJson (Doc.ofFields chezAma.toJson) = some sansNote ∧
      (Restaurant.fromJson (Doc.ofFields chezAma.toJson)).map Restaurant.champs ≠
        some chezAma.champs ∧
      reecrire (addRestaurant Database.tirageLong magasinVide chezAma)
          (Database.tirageLong.tirer magasinVide restaurants) =
        some (addRestaurant Database.tirageLong magasinVide sansNote) ∧
      reecrire (addRestaurant Database.tirageLong magasinVide chezAma)
          (Database.tirageLong.tirer magasinVide restaurants) ≠
        some (addRestaurant Database.tirageLong magasinVide chezAma) := by
  have stored := doc?_addRestaurant Database.tirageLong magasinVide chezAma
  refine ⟨fromJson_toJson chezAma, ?_, reecrire_addRestaurant Database.tirageLong _ _, ?_⟩
  · rw [Ne, codec_iff]
    simp [chezAma]
  · rw [Ne, reecrire_kept_iff _ _ chezAma stored]
    simp [chezAma]

end EWallet.Session
