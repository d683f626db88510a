import EWallet.Session.Application

namespace EWallet.Session

open Firestore Commandes

def restaurants : Path := ["restaurants"]

def nombreDeFav (s : Application) : ℕ := s.restoFavIdList.length

def getFavStream (s : Application) : Option (List (String × Doc)) :=
  -- on an empty list `restoFavIdList[0]` throws first
  s.store.whereIn restaurants "id du restaurant" s.restoFavIdList

inductive Ecran where
  | restaurants (docs : List (String × Doc))
  | aucunFavori
  | exception

/-- The build: it calls `fillIdList`, does not wait for it, and asks for the restaurants when the
list is not empty. -/
def listRestoFav (s : Application) : Ecran :=
  if nombreDeFav (fillIdList s) ≠ 0 then
    match getFavStream (fillIdList s) with
    | some docs => .restaurants docs
    | none => .exception
  else .aucunFavori

/-- A call of `fillIdList` by a build, up to its `await`, or the rest of a call that waits. -/
inductive Appel where
  | construire
  | repondre (k : ℕ)
  deriving DecidableEq

def Appel.geste : Appel → Geste
  | construire => .listRestoFav
  | repondre k => .favorisRecus k

def appeler (s : Application) (appel : Appel) : Application := faire s appel.geste

def ouverture (db : Database) (u : Utilisateur) : Application := connecter (demarrage db) u

structure Remplissage where
  app : Application
  reponses : ℕ

def compter (r : Remplissage) (appel : Appel) : Remplissage where
  app := appeler r.app appel
  reponses :=
    match appel with
    | .construire => r.reponses
    | .repondre k => if k < r.app.enVol.length then r.reponses + 1 else r.reponses

def vide (db : Database) (u : Utilisateur) : Remplissage := ⟨ouverture db u, 0⟩

/-- The list holds the favourites once for each answer, and the flag is set by the first. -/
structure Copies (db : Database) (u : Utilisateur) (r : Remplissage) : Prop where
  store : r.app.store = db
  user : r.app.user = some u
  siens : ∀ persoId ∈ r.app.enVol, persoId = u.persoId
  liste : r.app.restoFavIdList = (List.replicate r.reponses (favorisDe db u.persoId)).flatten
  rempli : r.app.isFilled = true ↔ 0 < r.reponses

def lances (r : Remplissage) : ℕ := r.reponses + r.app.enVol.length

theorem copies_vide (db : Database) (u : Utilisateur) :
    Copies db u (vide db u) ∧ lances (vide db u) = 1 := by
  refine ⟨⟨rfl, rfl, ?_, rfl, ?_⟩, rfl⟩
  · intro persoId member
    exact List.mem_singleton.mp member
  · exact iff_of_false Bool.false_ne_true (lt_irrefl 0)

theorem compter_cases (db : Database) (u : Utilisateur) (r : Remplissage)
    (copies : Copies db u r) (appel : Appel) :
    (compter r appel = r ∧ (appel = .construire → r.app.isFilled = true)) ∨
    (appel = .construire ∧ r.app.isFilled = false ∧
      compter r appel = { r with app := { r.app with enVol := r.app.enVol ++ [u.persoId] } }) ∨
    ∃ k, appel = .repondre k ∧ k < r.app.enVol.length ∧ compter r appel =
      { app := { r.app with
          restoFavIdList := r.app.restoFavIdList ++ favorisDe db u.persoId
          isFilled := true
          enVol := r.app.enVol.eraseIdx k }
        reponses := r.reponses + 1 } := by
  cases appel with
  | construire =>
      cases filled : r.app.isFilled with
      | true =>
          refine Or.inl ⟨?_, fun _ => rfl⟩
          simp [compter, appeler, Appel.geste, faire, fillIdList, copies.user, filled]
      | false =>
          refine Or.inr (Or.inl ⟨rfl, rfl, ?_⟩)
          simp [compter, appeler, Appel.geste, faire, fillIdList, copies.user, filled]
  | repondre k =>
      by_cases inside : k < r.app.enVol.length
      · have at_ : r.app.enVol[k]? = some u.persoId := by
          rw [List.getElem?_eq_getElem inside, copies.siens _ (List.getElem_mem inside)]
        refine Or.inr (Or.inr ⟨k, rfl, inside, ?_⟩)
        simp only [compter, appeler, Appel.geste, faire, favorisRecus, at_, if_pos inside,
          copies.store]
      · have at_ : r.app.enVol[k]? = none := List.getElem?_eq_none (Nat.le_of_not_lt inside)
        refine Or.inl ⟨?_, fun same => by cases same⟩
        simp only [compter, appeler, Appel.geste, faire, favorisRecus, at_, if_neg inside]

theorem copies_compter (db : Database) (u : Utilisateur) (r : Remplissage) (appel : Appel)
    (copies : Copies db u r) : Copies db u (compter r appel) := by
  rcases compter_cases db u r copies appel with ⟨same, _⟩ | ⟨_, _, waits⟩ | ⟨k, _, _, answered⟩
  · rw [same]
    exact copies
  · rw [waits]
    refine ⟨copies.store, copies.user, fun persoId member => ?_, copies.liste, copies.rempli⟩
    rcases List.mem_append.mp member with old | new
    · exact copies.siens persoId old
    · exact List.mem_singleton.mp new
  · rw [answered]
    refine ⟨copies.store, copies.user, fun persoId member => ?_, ?_, ?_⟩
    · exact copies.siens persoId (List.mem_of_mem_eraseIdx member)
    · simp only [copies.liste]
      rw [List.replicate_succ', List.flatten_append, List.flatten_singleton]
    · exact iff_of_true rfl (Nat.succ_pos _)

/-- A build starts no call while the answer to another has yet to set the flag. -/
def Attend (s : Application) (appel : Appel) : Prop := appel = .construire → s.isFilled = true

theorem lances_compter (db : Database) (u : Utilisateur) (r : Remplissage) (appel : Appel)
    (copies : Copies db u r) :
    (Attend r.app appel ∧ lances (compter r appel) = lances r) ∨
      (¬ Attend r.app appel ∧ lances (compter r appel) = lances r + 1) := by
  rcases compter_cases db u r copies appel with
    ⟨same, waits⟩ | ⟨rfl, unset, started⟩ | ⟨k, rfl, inside, answered⟩
  · rw [same]
    exact Or.inl ⟨waits, rfl⟩
  · rw [started]
    refine Or.inr ⟨fun waits => ?_, ?_⟩
    · rw [waits rfl] at unset
      cases unset
    · simp only [lances, List.length_append, List.length_singleton, Nat.add_assoc]
  · rw [answered]
    refine Or.inl ⟨by simp [Attend], ?_⟩
    simp only [lances, List.length_eraseIdx_of_lt inside]
    omega

theorem un_seul_appel_iff (db : Database) (u : Utilisateur) (appels : List Appel) :
    lances (Machine.run compter (vide db u) appels) = 1 ↔
      Machine.Along compter (fun r appel => Attend r.app appel) (vide db u) appels := by
  have keep : ∀ r appel, Copies db u r ∧ 1 ≤ lances r →
      Copies db u (compter r appel) ∧ 1 ≤ lances (compter r appel) := by
    rintro r appel ⟨copies, started⟩
    refine ⟨copies_compter db u r appel copies, ?_⟩
    rcases lances_compter db u r appel copies with ⟨_, count⟩ | ⟨_, count⟩ <;> omega
  obtain ⟨copies, one⟩ := copies_vide db u
  have throughout : Machine.Always compter (fun r => lances r = 1) (vide db u) appels ↔
      lances (Machine.run compter (vide db u) appels) = 1 := by
    constructor
    · exact Machine.always_last compter _ _ appels
    · apply Machine.always_of_last compter (fun r => Copies db u r ∧ 1 ≤ lances r)
        (fun r => lances r = 1) keep
      · rintro r appel ⟨held, started⟩ after
        rcases lances_compter db u r appel held with ⟨_, count⟩ | ⟨_, count⟩ <;> omega
      · exact ⟨copies, one.ge⟩
  rw [← throughout]
  apply Machine.always_iff_along compter (Copies db u) _ _ (copies_compter db u) _ _ appels copies
    one
  intro r appel held single
  rcases lances_compter db u r appel held with ⟨waits, count⟩ | ⟨starts, count⟩
  · exact iff_of_true (by omega) waits
  · exact iff_of_false (by omega) starts

theorem length_flatten_replicate (n : ℕ) (l : List Value) :
    (List.replicate n l).flatten.length = n * l.length := by
  simp

theorem flatten_replicate_eq_iff (n : ℕ) (l : List Value) :
    (List.replicate n l).flatten = l ↔ l = [] ∨ n = 1 := by
  constructor
  · intro same
    have count := congrArg List.length same
    rw [length_flatten_replicate] at count
    cases l with
    | nil => exact Or.inl rfl
    | cons a rest =>
        refine Or.inr (Nat.eq_of_mul_eq_mul_right (Nat.succ_pos rest.length) ?_)
        rw [Nat.one_mul]
        exact count
  · rintro (rfl | rfl)
    · simp
    · simp

/-- When no call of `fillIdList` is waiting any more, the list holds each favourite as often as
it was fetched, if and only if the user has none or no build came before the first answer. -/
theorem favourites_filled_once_iff (db : Database) (u : Utilisateur) (appels : List Appel)
    (ended : (Machine.run appeler (ouverture db u) appels).enVol = []) :
    (Machine.run appeler (ouverture db u) appels).restoFavIdList = favorisDe db u.persoId ↔
      favorisDe db u.persoId = [] ∨ Machine.Along appeler Attend (ouverture db u) appels := by
  have project : (Machine.run compter (vide db u) appels).app =
      Machine.run appeler (ouverture db u) appels :=
    Machine.run_project compter appeler Remplissage.app (fun _ _ => rfl) (vide db u) appels
  have along : Machine.Along compter (fun r appel => Attend r.app appel) (vide db u) appels ↔
      Machine.Along appeler Attend (ouverture db u) appels :=
    Machine.along_project compter appeler Remplissage.app (fun _ _ => rfl) Attend (vide db u) appels
  have copies := Machine.run_preserves compter (Copies db u) (copies_compter db u) (vide db u)
    appels (copies_vide db u).1
  rw [← along, ← un_seul_appel_iff, ← project, copies.liste, flatten_replicate_eq_iff, lances,
    project, ended, List.length_nil, Nat.add_zero]

def eve : Utilisateur := ⟨"u", some "Eve"⟩

def baseFavoris (ids : List String) : Database
  | ["utilisateurs", "u", "restaurants fav"] =>
      ids.foldl (fun favoris id => favoris.insert id (Doc.ofFields [("id", .string id)]))
        OrderedMap.empty
  | _ => OrderedMap.empty

theorem page_opened_after_answer :
    (Machine.run appeler (ouverture (baseFavoris ["R", "S"]) eve)
      [.repondre 0, .construire]).restoFavIdList = favorisDe (baseFavoris ["R", "S"]) eve.persoId :=
  (favourites_filled_once_iff (baseFavoris ["R", "S"]) eve [.repondre 0, .construire] rfl).mpr
    (Or.inr ⟨by simp [Attend], fun _ => rfl, trivial⟩)

/-- The favourites page is opened before the first answer: both answers are appended, and two
favourites count as four. -/
theorem page_opened_early_doubles_favourites :
    (Machine.run appeler (ouverture (baseFavoris ["R", "S"]) eve)
        [.construire, .repondre 0, .repondre 0]).enVol = [] ∧
      favorisDe (baseFavoris ["R", "S"]) eve.persoId = ["R", "S"].map .string ∧
      (Machine.run appeler (ouverture (baseFavoris ["R", "S"]) eve)
        [.construire, .repondre 0, .repondre 0]).restoFavIdList =
          ["R", "S", "R", "S"].map .string ∧
      nombreDeFav (Machine.run appeler (ouverture (baseFavoris ["R", "S"]) eve)
        [.construire, .repondre 0, .repondre 0]) = 4 := by
  refine ⟨?_, ?_, ?_, ?_⟩ <;> decide +kernel

/-- The page shows exactly the restaurants whose id is a favourite of the user: those of a legal
query, or the message that there is none when there is none. -/
def Juste (db : Database) (u : Utilisateur) : Ecran → Prop
  | .restaurants docs =>
      docs = (db restaurants).entries.filter (fun entry =>
        (favorisDe db u.persoId).any (fun id => entry.2 "id du restaurant" = some id))
  | .aucunFavori => favorisDe db u.persoId = []
  | .exception => False

theorem fillIdList_garde (s : Application) :
    (fillIdList s).restoFavIdList = s.restoFavIdList ∧ (fillIdList s).store = s.store := by
  unfold fillIdList
  split
  · exact ⟨rfl, rfl⟩
  · split
    · exact ⟨rfl, rfl⟩
    · exact ⟨rfl, rfl⟩

theorem listRestoFav_cases (s : Application) :
    (s.restoFavIdList = [] ∧ listRestoFav s = .aucunFavori) ∨
    (10 < s.restoFavIdList.length ∧ listRestoFav s = .exception) ∨
    (s.restoFavIdList ≠ [] ∧ s.restoFavIdList.length ≤ 10 ∧
      listRestoFav s = .restaurants ((s.store restaurants).entries.filter (fun entry =>
        s.restoFavIdList.any (fun id => entry.2 "id du restaurant" = some id)))) := by
  obtain ⟨list, store⟩ := fillIdList_garde s
  rw [listRestoFav, nombreDeFav, getFavStream, Database.whereIn, list, store]
  by_cases none_ : s.restoFavIdList = []
  · exact Or.inl ⟨none_, by simp [none_]⟩
  · rw [if_pos (by simpa using none_)]
    by_cases many : 10 < s.restoFavIdList.length
    · rw [if_pos (Or.inr many)]
      exact Or.inr (Or.inl ⟨many, rfl⟩)
    · rw [if_neg (by simp [none_, many])]
      exact Or.inr (Or.inr ⟨none_, by omega, rfl⟩)

theorem any_replicate (n : ℕ) (l : List Value) (test : Value → Bool) (some_ : 0 < n) :
    (List.replicate n l).flatten.any test = l.any test := by
  rw [Bool.eq_iff_iff]
  simp only [List.any_eq_true, List.mem_flatten, List.mem_replicate]
  constructor
  · rintro ⟨id, ⟨copy, ⟨_, rfl⟩, member⟩, holds⟩
    exact ⟨id, member, holds⟩
  · rintro ⟨id, member, holds⟩
    exact ⟨id, ⟨l, ⟨some_.ne', rfl⟩, member⟩, holds⟩

theorem juste_of_aucun (db : Database) (u : Utilisateur) (r : Remplissage)
    (copies : Copies db u r) (none_ : favorisDe db u.persoId = []) :
    Juste db u (listRestoFav r.app) := by
  have empty : r.app.restoFavIdList = [] := by simp [copies.liste, none_]
  rcases listRestoFav_cases r.app with ⟨_, shown⟩ | ⟨many, _⟩ | ⟨some_, _, _⟩
  · rw [shown]
    exact none_
  · simp [empty] at many
  · exact absurd empty some_

theorem juste_iff (db : Database) (u : Utilisateur) (r : Remplissage) (copies : Copies db u r)
    (some_ : favorisDe db u.persoId ≠ []) :
    Juste db u (listRestoFav r.app) ↔
      0 < r.reponses ∧ r.reponses * (favorisDe db u.persoId).length ≤ 10 := by
  have count : r.app.restoFavIdList.length = r.reponses * (favorisDe db u.persoId).length := by
    rw [copies.liste, length_flatten_replicate]
  have positive : 0 < (favorisDe db u.persoId).length := List.length_pos_iff.mpr some_
  rw [← count]
  rcases listRestoFav_cases r.app with ⟨none_, shown⟩ | ⟨many, shown⟩ | ⟨full, few, shown⟩
  · rw [shown]
    refine iff_of_false some_ ?_
    rintro ⟨answered, _⟩
    have length := Nat.mul_pos answered positive
    rw [← count, none_] at length
    exact absurd length (lt_irrefl 0)
  · rw [shown]
    refine iff_of_false id ?_
    rintro ⟨_, few⟩
    omega
  · have answered : 0 < r.reponses := by
      rw [Nat.pos_iff_ne_zero]
      intro zero
      apply full
      rw [copies.liste, zero]
      rfl
    rw [shown]
    refine iff_of_true ?_ ⟨answered, few⟩
    simp only [Juste, copies.liste, copies.store, any_replicate _ _ _ answered]

theorem juste_un_appel (db : Database) (u : Utilisateur) (r : Remplissage)
    (copies : Copies db u r) (some_ : favorisDe db u.persoId ≠ []) (one : lances r = 1) :
    Juste db u (listRestoFav r.app) ↔
      r.app.isFilled = true ∧ (favorisDe db u.persoId).length ≤ 10 := by
  rw [juste_iff db u r copies some_, copies.rempli]
  refine and_congr_right (fun answered => ?_)
  have single : r.reponses = 1 := by
    rw [lances] at one
    omega
  rw [single, Nat.one_mul]

theorem juste_au_long_iff (db : Database) (u : Utilisateur) (appels : List Appel)
    (some_ : favorisDe db u.persoId ≠ []) :
    Machine.Along compter (fun r appel => appel = .construire → Juste db u (listRestoFav r.app))
        (vide db u) appels ↔
      Machine.Along compter (fun r appel => Attend r.app appel) (vide db u) appels ∧
        (.construire ∈ appels → (favorisDe db u.persoId).length ≤ 10) := by
  have copies := fun front => Machine.run_preserves compter (Copies db u) (copies_compter db u)
    (vide db u) front (copies_vide db u).1
  -- where the builds have waited so far, one call has been started, and the page is right if the
  -- next build waits too
  have next : ∀ front, Machine.Along compter (fun r appel => Attend r.app appel) (vide db u)
      front → (Juste db u (listRestoFav (Machine.run compter (vide db u) front).app) ↔
        (Machine.run compter (vide db u) front).app.isFilled = true ∧
          (favorisDe db u.persoId).length ≤ 10) :=
    fun front waited => juste_un_appel db u _ (copies front) some_
      ((un_seul_appel_iff db u front).mpr waited)
  constructor
  · intro right
    rw [Machine.along_iff_prefixes] at right
    have along : Machine.Along compter (fun r appel => Attend r.app appel) (vide db u) appels := by
      rw [Machine.along_iff_prefixes]
      intro front act back split built
      have seen := (juste_iff db u _ (copies front) some_).mp (right front act back split built)
      exact (copies front).rempli.mpr seen.1
    refine ⟨along, fun built => ?_⟩
    obtain ⟨front, back, split⟩ := List.append_of_mem built
    rw [split, Machine.along_append] at along
    exact ((next front along.1).mp (right front _ back split rfl)).2
  · rintro ⟨along, few⟩
    rw [Machine.along_iff_prefixes]
    intro front act back split built
    rw [built] at split
    rw [split, Machine.along_append] at along
    exact (next front along.1).mpr ⟨along.2.1 rfl, few (by simp [split])⟩

/-- At each build the favourites page asks a legal query and shows exactly the restaurants that
are favourites, if and only if the user has no favourite, or no build came before the first answer
and there are ten favourites at most when the page is built at all. -/
theorem favourites_page_legal_iff (db : Database) (u : Utilisateur) (appels : List Appel) :
    Machine.Along appeler (fun s appel => appel = .construire → Juste db u (listRestoFav s))
        (ouverture db u) appels ↔
      favorisDe db u.persoId = [] ∨
        (Machine.Along appeler Attend (ouverture db u) appels ∧
          (.construire ∈ appels → (favorisDe db u.persoId).length ≤ 10)) := by
  have shown := Machine.along_project compter appeler Remplissage.app (fun _ _ => rfl)
    (fun s appel => appel = .construire → Juste db u (listRestoFav s)) (vide db u) appels
  have waited := Machine.along_project compter appeler Remplissage.app (fun _ _ => rfl) Attend
    (vide db u) appels
  change Machine.Along appeler _ (vide db u).app appels ↔ _ ∨
    (Machine.Along appeler Attend (vide db u).app appels ∧ _)
  rw [← shown, ← waited]
  by_cases none_ : favorisDe db u.persoId = []
  · refine iff_of_true ?_ (Or.inl none_)
    rw [Machine.along_iff_prefixes]
    intro front act back _ _
    exact juste_of_aucun db u _ (Machine.run_preserves compter (Copies db u) (copies_compter db u)
      (vide db u) front (copies_vide db u).1) none_
  · rw [or_iff_right none_]
    exact juste_au_long_iff db u appels none_

def onzeFavoris : List String := ["A", "B", "C", "D", "E", "F", "G", "H", "I", "J", "K"]

/-- A user with eleven favourites opens the page: `whereIn` is given eleven values. -/
theorem eleven_favourites_never_shown :
    (favorisDe (baseFavoris onzeFavoris) eve.persoId).length = 11 ∧
      listRestoFav (Machine.run appeler (ouverture (baseFavoris onzeFavoris) eve) [.repondre 0]) =
        .exception ∧
      ¬ Machine.Along appeler (fun s appel => appel = .construire →
          Juste (baseFavoris onzeFavoris) eve (listRestoFav s))
        (ouverture (baseFavoris onzeFavoris) eve) [.repondre 0, .construire] := by
  have eleven : (Machine.run appeler (ouverture (baseFavoris onzeFavoris) eve)
      [.repondre 0]).restoFavIdList.length = 11 := by decide +kernel
  have thrown : listRestoFav (Machine.run appeler (ouverture (baseFavoris onzeFavoris) eve)
      [.repondre 0]) = .exception := by
    rcases listRestoFav_cases (Machine.run appeler (ouverture (baseFavoris onzeFavoris) eve)
      [.repondre 0]) with ⟨none_, _⟩ | ⟨_, shown⟩ | ⟨_, few, _⟩
    · rw [none_] at eleven
      cases eleven
    · exact shown
    · omega
  refine ⟨by decide +kernel, thrown, ?_⟩
  rintro ⟨_, second, _⟩
  have right := second rfl
  change Juste _ _ (listRestoFav (Machine.run appeler (ouverture (baseFavoris onzeFavoris) eve)
    [.repondre 0])) at right
  rw [thrown] at right
  exact right

end EWallet.Session
