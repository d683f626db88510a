import EWallet.Session.Restaurants

namespace EWallet.Session

open Firestore Commandes

structure Fiche where
  nom : String
  localisation : String
  note : Value

def vote (document : Doc) : Option Value :=
  -- a vote that is no map throws, one without a note shows null
  match document.field "vote" with
  | .map fields => some ((Doc.ofFields fields).field "note")
  | _ => none

/-- A name or a location that is missing, null or no text is an error widget. -/
def fiche (document : Doc) : Option Fiche := do
  let nom ← document.string? "nom"
  let localisation ← document.string? "localisation"
  let note ← vote document
  return ⟨nom, localisation, note⟩

def ListResto.buildListItem (document : String × Doc) : String × Option Fiche :=
  (document.1, fiche document.2)

def listResto (db : Database) : List (String × Option Fiche) :=
  (db restaurants).entries.map ListResto.buildListItem

def buildListFav (db : Database) (restoFavIdList : List Value) :
    Option (List (String × Option Fiche)) :=
  (db.whereIn restaurants "id du restaurant" restoFavIdList).map
    (fun docs => docs.map ListResto.buildListItem)

def buildRestaurantHomeScreen (db : Database) (id : String) : Option Fiche :=
  -- without a document `resto['nom']` throws on null
  (db.doc? restaurants id).bind fiche

def montres (items : List (String × Option Fiche)) : List (String × Fiche) :=
  items.filterMap (fun item => item.2.map (Prod.mk item.1))

/-- `addRestaurant` of the repository of one restaurant: it updates the document, and fails
without one. -/
def SingleRestoRepository.addRestaurant (db : Database) (id : String) (restaurant : Restaurant) :
    Option Database :=
  db.update restaurants id (Doc.values restaurant.toJson)

inductive Ecriture where
  | addRestaurant (restaurant : Restaurant)
  | updateRestaurant (restaurant : Restaurant)
  | completer (id : String) (restaurant : Restaurant)

def ecrire (tirage : Database.Tirage) (db : Database) : Ecriture → Database
  | .addRestaurant restaurant => addRestaurant tirage db restaurant
  | .updateRestaurant restaurant => (updateRestaurant db restaurant).getD db
  | .completer id restaurant => (SingleRestoRepository.addRestaurant db id restaurant).getD db

def Ecriture.ajoute : Ecriture → Bool
  | addRestaurant _ => true
  | _ => false

def clefs : List String := ["name", "location", "note"]

/-- A reader of documents that looks at none of these keys and makes nothing of an empty
document. -/
structure Etranger {ε : Type*} (lire : Doc → Option ε) : Prop where
  ailleurs : ∀ document document', (∀ key ∉ clefs, document key = document' key) →
    lire document = lire document'
  vide : lire (Doc.ofFields []) = none

def favori (restoFavIdList : List Value) (document : Doc) : Option (Option Fiche) :=
  if restoFavIdList.any (fun id => document "id du restaurant" = some id) then
    some (fiche document)
  else none

def regard {ε : Type*} (lire : Doc → Option ε) (db : Database) : OrderedMap String ε :=
  (db restaurants).filterMap lire

theorem string?_congr (document document' : Doc) (key : String)
    (same : document key = document' key) : document.string? key = document'.string? key := by
  rw [Doc.string?, Doc.string?, same]

theorem fiche_etranger : Etranger fiche where
  ailleurs document document' same := by
    have vote_same : vote document = vote document' := by
      rw [vote, vote, Doc.field, Doc.field, same "vote" (by decide)]
    rw [fiche, fiche, string?_congr document document' "nom" (same "nom" (by decide)),
      string?_congr document document' "localisation" (same "localisation" (by decide)), vote_same]
  vide := rfl

theorem favori_etranger (restoFavIdList : List Value) : Etranger (favori restoFavIdList) where
  ailleurs document document' same := by
    rw [favori, favori, same "id du restaurant" (by decide),
      fiche_etranger.ailleurs document document' same]
  vide := by simp [favori, Doc.ofFields]

section Lecteur

variable {ε : Type*} {lire : Doc → Option ε} (etranger : Etranger lire)

include etranger

theorem lire_update (document : Doc) (restaurant : Restaurant) :
    lire (document.update (Doc.values restaurant.toJson)) = lire document := by
  apply etranger.ailleurs
  intro key other
  rw [Doc.update_values _ _ key (toJson_distinct restaurant),
    Doc.lookup_absent restaurant.toJson key other]
  rfl

theorem lire_toJson (restaurant : Restaurant) : lire (Doc.ofFields restaurant.toJson) = none := by
  rw [← etranger.vide]
  apply etranger.ailleurs
  intro key other
  exact Doc.lookup_absent restaurant.toJson key other

theorem regard_change (db : Database) (id : String) (restaurant : Restaurant) :
    regard lire (db.change restaurants id (Doc.values restaurant.toJson)) = regard lire db := by
  apply OrderedMap.ext_get?
  intro key
  have found := Database.doc?_change db restaurants restaurants id key
    (Doc.values restaurant.toJson)
  rw [Database.doc?, Database.doc?] at found
  rw [regard, regard, OrderedMap.get?_filterMap, OrderedMap.get?_filterMap, found]
  split
  · cases (db restaurants).get? key with
    | none => rfl
    | some document => exact lire_update etranger document restaurant
  · rfl

theorem regard_addRestaurant (tirage : Database.Tirage) (db : Database) (restaurant : Restaurant) :
    regard lire (addRestaurant tirage db restaurant) = regard lire db := by
  apply OrderedMap.ext_get?
  intro key
  have found := Database.doc?_set db restaurants restaurants (tirage.tirer db restaurants) key
    (Doc.ofFields restaurant.toJson)
  have fresh := tirage.neuf db restaurants
  rw [Database.doc?] at found fresh
  rw [regard, regard, OrderedMap.get?_filterMap, OrderedMap.get?_filterMap, addRestaurant, found]
  split
  · rename_i drawn
    rw [drawn.2, fresh]
    exact lire_toJson etranger restaurant
  · rfl

theorem regard_update (db : Database) (id : String) (restaurant : Restaurant) :
    regard lire ((db.update restaurants id (Doc.values restaurant.toJson)).getD db) =
      regard lire db := by
  rw [Database.update]
  split
  · exact regard_change etranger db id restaurant
  · rfl

theorem regard_ecrire (tirage : Database.Tirage) (db : Database) (ecriture : Ecriture) :
    regard lire (ecrire tirage db ecriture) = regard lire db := by
  cases ecriture with
  | addRestaurant restaurant => exact regard_addRestaurant etranger tirage db restaurant
  | updateRestaurant restaurant =>
      rw [ecrire, updateRestaurant]
      cases restaurant.reference with
      | none => rfl
      | some id => exact regard_update etranger db id restaurant
  | completer id restaurant => exact regard_update etranger db id restaurant

theorem regard_run (tirage : Database.Tirage) (db : Database) (ecritures : List Ecriture) :
    regard lire (Machine.run (ecrire tirage) db ecritures) = regard lire db :=
  Machine.run_preserves (ecrire tirage) (fun db' => regard lire db' = regard lire db)
    (fun db' ecriture same => (regard_ecrire etranger tirage db' ecriture).trans same) db ecritures
    rfl

end Lecteur

theorem montres_listResto (db : Database) : montres (listResto db) = (regard fiche db).entries := by
  rw [montres, listResto, List.filterMap_map]
  rfl

theorem buildRestaurantHomeScreen_eq (db : Database) (id : String) :
    buildRestaurantHomeScreen db id = (regard fiche db).get? id :=
  ((db restaurants).get?_filterMap fiche id).symm

theorem buildListFav_eq (db : Database) (restoFavIdList : List Value) :
    buildListFav db restoFavIdList =
      if restoFavIdList = [] ∨ 10 < restoFavIdList.length then none
      else some (regard (favori restoFavIdList) db).entries := by
  rw [buildListFav, Database.whereIn]
  split
  · rfl
  · rw [Option.map_some, Option.some.injEq, ← List.filterMap_eq_filter, List.map_filterMap]
    apply List.filterMap_congr
    intro entry member
    by_cases asked : restoFavIdList.any (fun id => entry.2 "id du restaurant" = some id) = true
    · rw [Option.guard, if_pos asked, favori, if_pos asked]
      rfl
    · rw [Option.guard, if_neg asked, favori, if_neg asked]
      rfl

theorem length_listResto (db : Database) (tirage : Database.Tirage) (ecriture : Ecriture) :
    (listResto (ecrire tirage db ecriture)).length =
      (listResto db).length + if ecriture.ajoute then 1 else 0 := by
  have updated : ∀ id (restaurant : Restaurant),
      (((db.update restaurants id (Doc.values restaurant.toJson)).getD db)
        restaurants).entries.length = (db restaurants).entries.length := by
    intro id restaurant
    rw [Database.update]
    split
    · simp [Database.change, OrderedMap.modify]
    · rfl
  rw [listResto, listResto, List.length_map, List.length_map]
  cases ecriture with
  | addRestaurant restaurant =>
      have joined := (db restaurants).insert_perm (tirage.tirer db restaurants)
        (Doc.ofFields restaurant.toJson) (tirage.neuf db restaurants)
      simpa [ecrire, addRestaurant, Database.set, Ecriture.ajoute] using joined.length_eq
  | updateRestaurant restaurant =>
      rw [ecrire, updateRestaurant]
      cases restaurant.reference with
      | none => rfl
      | some id => exact updated id restaurant
  | completer id restaurant => exact updated id restaurant

theorem length_listResto_run (tirage : Database.Tirage) (db : Database)
    (ecritures : List Ecriture) :
    (listResto (Machine.run (ecrire tirage) db ecritures)).length =
      (listResto db).length + ecritures.countP Ecriture.ajoute := by
  induction ecritures generalizing db with
  | nil => rfl
  | cons ecriture rest ih =>
      rw [Machine.run_cons, ih, length_listResto, List.countP_cons]
      omega

/-- Whatever the repositories write, in any order, no page of the application shows it: the home
page of every restaurant, the items of the list that are no error widget and the whole list of
favourites, for any favourites, stay what they were. Each added restaurant is one more error
widget in the list. -/
theorem repository_writes_never_shown (tirage : Database.Tirage) (db : Database)
    (ecritures : List Ecriture) :
    (∀ id, buildRestaurantHomeScreen (Machine.run (ecrire tirage) db ecritures) id =
      buildRestaurantHomeScreen db id) ∧
    montres (listResto (Machine.run (ecrire tirage) db ecritures)) = montres (listResto db) ∧
    (listResto (Machine.run (ecrire tirage) db ecritures)).length =
      (listResto db).length + ecritures.countP Ecriture.ajoute ∧
    ∀ restoFavIdList, buildListFav (Machine.run (ecrire tirage) db ecritures) restoFavIdList =
      buildListFav db restoFavIdList := by
  have seen := regard_run fiche_etranger tirage db ecritures
  refine ⟨fun id => ?_, ?_, length_listResto_run tirage db ecritures, fun restoFavIdList => ?_⟩
  · rw [buildRestaurantHomeScreen_eq, buildRestaurantHomeScreen_eq, seen]
  · rw [montres_listResto, montres_listResto, seen]
  · rw [buildListFav_eq, buildListFav_eq,
      regard_run (favori_etranger restoFavIdList) tirage db ecritures]

example : (listResto (addRestaurant Database.tirageLong magasinVide sansNote)).map
    (fun item => (item.1, item.2.isSome)) = [("a", false)] := by
  decide +kernel

end EWallet.Session
