import Mathlib.Data.List.Basic

namespace EWallet.Decoding

variable {α β : Type*} {f : α → Option β}

theorem mapM_cons_iff (a : α) (rest : List α) (found : List β) :
    (a :: rest).mapM f = some found ↔
      ∃ b others, f a = some b ∧ rest.mapM f = some others ∧ found = b :: others := by
  simp only [List.mapM_cons, Option.pure_def, Option.bind_eq_bind, Option.bind_eq_some_iff,
    Option.some.injEq]
  constructor
  · rintro ⟨b, first, others, all, rfl⟩
    exact ⟨b, others, first, all, rfl⟩
  · rintro ⟨b, others, first, all, rfl⟩
    exact ⟨b, first, others, all, rfl⟩

theorem mapM_filter (p : α → Bool) (q : β → Bool)
    (same : ∀ a b, f a = some b → p a = q b) (source : List α) (found : List β)
    (all : source.mapM f = some found) : (source.filter p).mapM f = some (found.filter q) := by
  induction source generalizing found with
  | nil =>
      cases all
      rfl
  | cons a rest ih =>
      obtain ⟨b, others, first, left, rfl⟩ := (mapM_cons_iff a rest found).mp all
      rw [List.filter_cons, List.filter_cons, same a b first]
      split
      · exact (mapM_cons_iff a _ _).mpr ⟨b, others.filter q, first, ih others left, rfl⟩
      · exact ih others left

theorem mapM_eq_none_iff (source : List α) : source.mapM f = none ↔ ∃ a ∈ source, f a = none := by
  induction source with
  | nil => simp
  | cons a rest ih =>
      rw [List.mapM_cons]
      cases first : f a with
      | none => simp [first]
      | some b =>
          cases left : rest.mapM f with
          | none => simpa [first, left] using ih.mp left
          | some others =>
              have fine : ∀ a ∈ rest, f a ≠ none := fun a member none_ =>
                absurd (ih.mpr ⟨a, member, none_⟩) (by simp [left])
              simpa [first] using fine

theorem mem_mapM (source : List α) (found : List β) (all : source.mapM f = some found) (a : α)
    (member : a ∈ source) : ∃ b ∈ found, f a = some b := by
  induction source generalizing found with
  | nil => cases member
  | cons first rest ih =>
      obtain ⟨b, others, decoded, left, rfl⟩ := (mapM_cons_iff first rest found).mp all
      rcases List.mem_cons.mp member with rfl | inside
      · exact ⟨b, List.mem_cons_self, decoded⟩
      · obtain ⟨b', listed, equal⟩ := ih others left inside
        exact ⟨b', List.mem_cons_of_mem b listed, equal⟩

theorem getElem?_mapM (source : List α) (found : List β) (all : source.mapM f = some found)
    (i : ℕ) : found[i]? = source[i]?.bind f := by
  induction source generalizing found i with
  | nil =>
      cases all
      rfl
  | cons first rest ih =>
      obtain ⟨b, others, decoded, left, rfl⟩ := (mapM_cons_iff first rest found).mp all
      cases i with
      | zero => exact decoded.symm
      | succ i => exact ih others left i

/-- A test that gives back what it lets through gives back the whole list or nothing. -/
theorem mapM_test {f : α → Option α} (same : ∀ a b, f a = some b → b = a) (source found : List α) :
    source.mapM f = some found ↔ (∀ a ∈ source, f a = some a) ∧ found = source := by
  induction source generalizing found with
  | nil => simp [eq_comm]
  | cons a rest ih =>
      rw [mapM_cons_iff, List.forall_mem_cons]
      constructor
      · rintro ⟨b, others, first, left, rfl⟩
        obtain ⟨all, rfl⟩ := (ih others).mp left
        obtain rfl := same a b first
        exact ⟨⟨first, all⟩, rfl⟩
      · rintro ⟨⟨first, all⟩, rfl⟩
        exact ⟨a, rest, first, (ih rest).mpr ⟨all, rfl⟩, rfl⟩

end EWallet.Decoding
