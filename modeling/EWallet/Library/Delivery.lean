import EWallet.Library.Calls
import EWallet.Library.Firestore

namespace EWallet.Firestore

/-- A store, and what has become of the calls of `add` that were made to it. -/
structure Server (μ : Type*) where
  store : Database
  calls : Calls μ

namespace Server

variable {μ : Type*} (path : μ → Path) (data : μ → Doc)

/-- One of the calls on their way reaches the store. Firestore never gives an id that is in use. -/
def add (s : Server μ) (k : ℕ) (id : String) : Server μ :=
  match s.calls.pending[k]? with
  | none => s
  | some call =>
      if (s.store.doc? (path call) id).isSome then s
      else ⟨s.store.set (path call) id (data call), s.calls.land k⟩

theorem add_cases (s : Server μ) (k : ℕ) (id : String) :
    s.add path data k id = s ∨
      ∃ call, s.calls.pending[k]? = some call ∧ s.store.doc? (path call) id = none ∧
        s.add path data k id = ⟨s.store.set (path call) id (data call), s.calls.land k⟩ := by
  unfold add
  split
  · exact Or.inl rfl
  · rename_i call waits
    split
    · exact Or.inl rfl
    · rename_i unused
      exact Or.inr ⟨call, waits, by simpa using unused, rfl⟩

theorem all_add (s : Server μ) (k : ℕ) (id : String) :
    (s.add path data k id).calls.all.Perm s.calls.all := by
  rcases s.add_cases path data k id with same | ⟨call, _, _, landed⟩
  · rw [same]
  · rw [landed]
    exact s.calls.all_land k

structure Grown (db : Database) (s : Server μ) : Prop where
  kept : ∀ p id doc, db.doc? p id = some doc → s.store.doc? p id = some doc
  added : ∀ p id doc, s.store.doc? p id = some doc → db.doc? p id = some doc ∨
    ∃ call ∈ s.calls.landed, path call = p ∧ data call = doc

theorem grown_start (db : Database) : Grown path data db (⟨db, Calls.none⟩ : Server μ) where
  kept _ _ _ found := found
  added _ _ _ found := Or.inl found

theorem grown_add (db : Database) (s : Server μ) (grown : Grown path data db s) (k : ℕ)
    (id : String) : Grown path data db (s.add path data k id) := by
  rcases s.add_cases path data k id with same | ⟨call, waits, fresh, landed⟩
  · rwa [same]
  · rw [landed]
    have moved : (s.calls.land k).landed = s.calls.landed ++ [call] := by
      rw [Calls.land, waits, Option.toList_some]
    constructor
    · intro p other doc before
      have there := grown.kept p other doc before
      rw [Database.doc?_set]
      split
      · rename_i same
        rw [same.1, same.2, fresh] at there
        cases there
      · exact there
    · intro p other doc found
      rw [Database.doc?_set] at found
      rw [moved]
      split at found
      · rename_i same
        cases found
        exact Or.inr ⟨call, List.mem_append_right _ List.mem_cons_self, same.1.symm, rfl⟩
      · rcases grown.added p other doc found with old | ⟨call', before, made⟩
        · exact Or.inl old
        · exact Or.inr ⟨call', List.mem_append_left _ before, made⟩

theorem grown_of_landed (db : Database) (s s' : Server μ) (grown : Grown path data db s)
    (store : s'.store = s.store) (landed : s'.calls.landed = s.calls.landed) :
    Grown path data db s' where
  kept := store ▸ grown.kept
  added := by
    rw [store, landed]
    exact grown.added

end Server

end EWallet.Firestore
