import EWallet.Library.Calls
import EWallet.Session.Favoris

namespace EWallet.Session

open Firestore Commandes

abbrev Reponse := String × List Value

/-- Since `s` the answers were appended to the list, and they were to calls that waited then. -/
structure Complete (s s' : Application) (reponses : List Reponse) : Prop where
  rempli : s'.isFilled = true
  liste : s'.restoFavIdList = s.restoFavIdList ++ reponses.flatMap Prod.snd
  appels : (reponses.map Prod.fst ++ s'.enVol).Perm s.enVol

/-- The answer that comes with an event: the user of the call it belongs to, and the favourites
the store holds at that moment. -/
def recue (s : Application) : Evenement → List Reponse
  | .geste (.favorisRecus k) =>
      s.enVol[k]?.toList.map (fun persoId => (persoId, favorisDe s.store persoId))
  | _ => []

def recues (s : Application) (events : List Evenement) : List Reponse :=
  Machine.output suivre recue s events

theorem complete_garde (s s' : Application) (filled : s'.isFilled = true)
    (liste : s'.restoFavIdList = s.restoFavIdList) (enVol : s'.enVol = s.enVol) :
    Complete s s' [] where
  rempli := filled
  liste := by rw [liste, List.flatMap_nil, List.append_nil]
  appels := by rw [enVol, List.map_nil, List.nil_append]

theorem complete_trans (s s' s'' : Application) (reponses suite : List Reponse)
    (first : Complete s s' reponses) (second : Complete s' s'' suite) :
    Complete s s'' (reponses ++ suite) where
  rempli := second.rempli
  liste := by rw [second.liste, first.liste, List.flatMap_append, List.append_assoc]
  appels := by
    rw [List.map_append, List.append_assoc]
    exact (second.appels.append_left _).trans first.appels

theorem complete_favorisRecus (s : Application) (k : ℕ) (filled : s.isFilled = true) :
    Complete s (favorisRecus s k) (recue s (.geste (.favorisRecus k))) := by
  have taken := Calls.taken_perm s.enVol k
  cases waits : s.enVol[k]? with
  | none =>
      rw [recue, favorisRecus, waits]
      exact complete_garde s s filled rfl rfl
  | some persoId =>
      rw [waits] at taken
      rw [recue, favorisRecus, waits]
      exact ⟨rfl, by simp, taken⟩

theorem complete_suivre (s : Application) (e : Evenement) (filled : s.isFilled = true)
    (running : e ≠ .lancer) : Complete s (suivre s e) (recue s e) := by
  cases e with
  | lancer => exact absurd rfl running
  | connecter u => apply complete_garde <;> simp [suivre, connecter, fillIdList, filled]
  | googleSignOut => exact complete_garde s _ filled rfl rfl
  | geste g =>
      cases g with
      | listRestoFav =>
          have same : fillIdList s = s := by
            rw [fillIdList]
            split
            · rfl
            · rw [if_pos filled]
          rw [suivre, faire, same]
          exact complete_garde s s filled rfl rfl
      | favorisRecus k => exact complete_favorisRecus s k filled
      | menuCharge page =>
          rw [suivre, faire, menuCharge]
          split
          · exact complete_garde s s filled rfl rfl
          · exact complete_garde s _ filled rfl rfl
      | agir act =>
          rw [suivre, faire, agir]
          split
          · exact complete_garde s _ filled rfl rfl
          · exact complete_garde s _ filled rfl rfl
      | serveur path docs => exact complete_garde s _ filled rfl rfl

theorem complete_run (s : Application) (events : List Evenement) (filled : s.isFilled = true)
    (running : ∀ e ∈ events, e ≠ .lancer) :
    Complete s (Machine.run suivre s events) (recues s events) := by
  induction events generalizing s with
  | nil => exact complete_garde s s filled rfl rfl
  | cons e rest ih =>
      have first := complete_suivre s e filled (running e List.mem_cons_self)
      exact complete_trans s _ _ _ _ first
        (ih (suivre s e) first.rempli (fun later member => running later (.tail e member)))

/-- After the first answer since a launch, whoever signs in, whatever favourites are added and
however often the page is opened, the list only grows by answers to the calls that waited at that
moment, one for each, and an answer brings the ids the store held for its user when it came. -/
theorem late_users_fetch_nothing (db : Database) (avant apres : List Evenement)
    (filled : (histoire db avant).isFilled = true) (running : ∀ e ∈ apres, e ≠ .lancer) :
    Complete (histoire db avant) (histoire db (avant ++ apres))
        (recues (histoire db avant) apres) ∧
      ∀ r ∈ recues (histoire db avant) apres, ∃ front k back,
        apres = front ++ .geste (.favorisRecus k) :: back ∧
        (histoire db (avant ++ front)).enVol[k]? = some r.1 ∧
        r.2 = favorisDe (histoire db (avant ++ front)).store r.1 := by
  have further : ∀ events, histoire db (avant ++ events) =
      Machine.run suivre (histoire db avant) events :=
    fun events => Machine.run_append suivre (demarrage db) avant events
  refine ⟨further apres ▸ complete_run _ apres filled running, fun r member => ?_⟩
  obtain ⟨front, e, back, split, given⟩ := (Machine.mem_output_iff suivre recue _ apres r).mp member
  rw [← further] at given
  cases e with
  | geste g =>
      cases g with
      | favorisRecus k =>
          obtain ⟨persoId, waits, rfl⟩ := List.mem_map.mp given
          exact ⟨front, k, back, split, Option.mem_toList.mp waits, rfl⟩
      | _ => cases given
  | _ => cases given

def jean : Utilisateur := ⟨"v", some "Jean"⟩

def tot : List Evenement := [.connecter eve, .geste .listRestoFav, .geste (.favorisRecus 0)]

def tard : List Evenement :=
  [.googleSignOut, .connecter jean,
    .geste (.serveur (restaurantsFav "u") (baseFavoris ["R", "S", "T"] (restaurantsFav "u"))),
    .geste (.favorisRecus 0)]

theorem late_answer_to_second_user :
    Complete (histoire (baseFavoris ["R", "S"]) tot) (histoire (baseFavoris ["R", "S"])
        (tot ++ tard)) [("u", ["R", "S", "T"].map .string)] ∧
      (histoire (baseFavoris ["R", "S"]) (tot ++ tard)).restoFavIdList =
        ["R", "S", "R", "S", "T"].map .string := by
  have answers : recues (histoire (baseFavoris ["R", "S"]) tot) tard =
      [("u", ["R", "S", "T"].map .string)] := by decide +kernel
  have complete := (late_users_fetch_nothing (baseFavoris ["R", "S"]) tot tard (by decide +kernel)
    (by simp [tard])).1
  rw [answers] at complete
  exact ⟨complete, complete.liste⟩

end EWallet.Session
