import Mathlib.Data.List.Pairwise
import Mathlib.Data.List.Sort
import Mathlib.Order.Basic

namespace EWallet

/-- A finite map whose entries are listed by strictly ascending keys, so that a key has at most
one entry and every enumeration has one order. -/
structure OrderedMap (κ δ : Type*) [LinearOrder κ] where
  entries : List (κ × δ)
  sorted : entries.Pairwise (fun left right => left.1 < right.1)

namespace OrderedMap

variable {κ δ : Type*} [LinearOrder κ]

def empty : OrderedMap κ δ := ⟨[], List.Pairwise.nil⟩

def single (key : κ) (value : δ) : OrderedMap κ δ := ⟨[(key, value)], List.pairwise_singleton _ _⟩

def get? (m : OrderedMap κ δ) (key : κ) : Option δ :=
  (m.entries.find? (fun entry => entry.1 = key)).map Prod.snd

def touch (key : κ) (f : δ → δ) (entry : κ × δ) : κ × δ :=
  if entry.1 = key then (entry.1, f entry.2) else entry

theorem touch_key (key : κ) (f : δ → δ) (entry : κ × δ) : (touch key f entry).1 = entry.1 := by
  simp only [touch]
  split <;> rfl

def modify (m : OrderedMap κ δ) (key : κ) (f : δ → δ) : OrderedMap κ δ :=
  ⟨m.entries.map (touch key f), by simpa only [List.pairwise_map, touch_key] using m.sorted⟩

theorem insert_sorted (m : OrderedMap κ δ) (key : κ) (value : δ) :
    (m.entries.filter (fun entry => entry.1 < key) ++
      (key, value) :: m.entries.filter (fun entry => key < entry.1)).Pairwise
        (fun left right => left.1 < right.1) := by
  rw [List.pairwise_append, List.pairwise_cons]
  refine ⟨m.sorted.filter _, ⟨?_, m.sorted.filter _⟩, ?_⟩
  · intro entry member
    simpa using (List.mem_filter.mp member).2
  · intro left before right after
    have low : left.1 < key := by simpa using (List.mem_filter.mp before).2
    rcases List.mem_cons.mp after with rfl | later
    · exact low
    · exact low.trans (by simpa using (List.mem_filter.mp later).2)

def insert (m : OrderedMap κ δ) (key : κ) (value : δ) : OrderedMap κ δ :=
  ⟨m.entries.filter (fun entry => entry.1 < key) ++
    (key, value) :: m.entries.filter (fun entry => key < entry.1), m.insert_sorted key value⟩

theorem unique (m : OrderedMap κ δ) (left right : κ × δ) (hl : left ∈ m.entries)
    (hr : right ∈ m.entries) (same : left.1 = right.1) : left = right := by
  by_contra different
  have apart : m.entries.Pairwise (fun l r => l.1 ≠ r.1) := m.sorted.imp (fun below => below.ne)
  have symmetric : Std.Symm (fun l r : κ × δ => l.1 ≠ r.1) := ⟨fun _ _ ne => ne.symm⟩
  exact apart.forall hl hr different same

theorem get?_eq_some (m : OrderedMap κ δ) (key : κ) (value : δ) :
    m.get? key = some value ↔ (key, value) ∈ m.entries := by
  simp only [get?, Option.map_eq_some_iff]
  constructor
  · rintro ⟨entry, found, rfl⟩
    have atKey : entry.1 = key := by simpa using List.find?_some found
    exact atKey ▸ List.mem_of_find?_eq_some found
  · intro member
    have present : (m.entries.find? (fun entry => entry.1 = key)).isSome :=
      List.find?_isSome.mpr ⟨(key, value), member, by simp⟩
    obtain ⟨entry, found⟩ := Option.isSome_iff_exists.mp present
    have atKey : entry.1 = key := by simpa using List.find?_some found
    have same := m.unique entry (key, value) (List.mem_of_find?_eq_some found) member atKey
    exact ⟨entry, found, by rw [same]⟩

theorem mem_modify (m : OrderedMap κ δ) (key other : κ) (f : δ → δ) (value : δ) :
    (other, value) ∈ (m.modify key f).entries ↔
      ∃ old, (other, old) ∈ m.entries ∧ value = if other = key then f old else old := by
  simp only [modify, List.mem_map]
  constructor
  · rintro ⟨⟨at_, old⟩, member, equal⟩
    by_cases atKey : at_ = key
    · simp only [touch, if_pos atKey, Prod.mk.injEq] at equal
      obtain ⟨rfl, rfl⟩ := equal
      exact ⟨old, member, by simp [atKey]⟩
    · simp only [touch, if_neg atKey, Prod.mk.injEq] at equal
      obtain ⟨rfl, rfl⟩ := equal
      exact ⟨old, member, by simp [atKey]⟩
  · rintro ⟨old, member, rfl⟩
    refine ⟨(other, old), member, ?_⟩
    by_cases atKey : other = key <;> simp [touch, atKey]

@[simp] theorem get?_modify (m : OrderedMap κ δ) (key other : κ) (f : δ → δ) :
    (m.modify key f).get? other =
      if other = key then (m.get? other).map f else m.get? other := by
  ext value
  rw [get?_eq_some, mem_modify]
  by_cases atKey : other = key
  · simp only [if_pos atKey, Option.map_eq_some_iff, get?_eq_some, eq_comm (a := value)]
  · simp [atKey, get?_eq_some]

theorem get?_insert (m : OrderedMap κ δ) (key other : κ) (value : δ) :
    (m.insert key value).get? other = if other = key then some value else m.get? other := by
  ext found
  rw [get?_eq_some]
  by_cases atKey : other = key
  · subst atKey
    simp [insert, eq_comm]
  · have apart : other < key ∨ key < other := lt_or_gt_of_ne atKey
    rw [if_neg atKey, get?_eq_some]
    simp [insert, atKey, ← and_or_left, apart]

@[simp] theorem get?_single (key other : κ) (value : δ) :
    (single key value).get? other = if other = key then some value else none := by
  by_cases atKey : other = key
  · simp [get?, single, atKey]
  · simp [get?, single, atKey, Ne.symm atKey]

theorem nodup (m : OrderedMap κ δ) : m.entries.Nodup :=
  m.sorted.imp (fun below equal => below.ne (by rw [equal]))

theorem ext_get? (m n : OrderedMap κ δ) (same : ∀ key, m.get? key = n.get? key) : m = n := by
  have members : ∀ entry, entry ∈ m.entries ↔ entry ∈ n.entries := by
    rintro ⟨key, value⟩
    rw [← get?_eq_some, ← get?_eq_some, same key]
  have perm : m.entries.Perm n.entries :=
    (List.perm_ext_iff_of_nodup m.nodup n.nodup).mpr members
  have entries : m.entries = n.entries :=
    perm.eq_of_pairwise (fun _ _ _ _ below above => absurd above (lt_asymm below))
      m.sorted n.sorted
  cases m
  cases n
  simpa using entries

theorem insert_perm (m : OrderedMap κ δ) (key : κ) (value : δ) (fresh : m.get? key = none) :
    (m.insert key value).entries.Perm ((key, value) :: m.entries) := by
  rw [List.perm_ext_iff_of_nodup (nodup _)]
  · rintro ⟨other, found⟩
    rw [← get?_eq_some, get?_insert, List.mem_cons, ← get?_eq_some]
    by_cases atKey : other = key
    · subst atKey
      simp [fresh, eq_comm]
    · simp [atKey]
  · rw [List.nodup_cons]
    refine ⟨fun member => ?_, m.nodup⟩
    rw [← get?_eq_some, fresh] at member
    cases member

theorem filter_modify (m : OrderedMap κ δ) (key : κ) (f : δ → δ) (p : κ × δ → Bool)
    (stable : ∀ value, (key, value) ∈ m.entries → p (key, f value) = p (key, value)) :
    (m.modify key f).entries.filter p = (m.entries.filter p).map (touch key f) := by
  simp only [modify, List.filter_map]
  congr 1
  apply List.filter_congr
  rintro ⟨other, value⟩ member
  by_cases atKey : other = key
  · subst atKey
    simpa [touch] using stable value member
  · simp [touch, atKey]

theorem filter_modify_out (m : OrderedMap κ δ) (key : κ) (f : δ → δ) (p : κ × δ → Bool)
    (out : ∀ value, p (key, f value) = false) :
    (m.modify key f).entries.filter p =
      (m.entries.filter p).filter (fun entry => entry.1 ≠ key) := by
  simp only [modify]
  induction m.entries with
  | nil => rfl
  | cons entry rest ih =>
      obtain ⟨other, value⟩ := entry
      rw [List.map_cons, List.filter_cons, ih, List.filter_cons]
      by_cases atKey : other = key
      · subst atKey
        rw [touch, if_pos rfl, out value, if_neg Bool.false_ne_true]
        split
        · rw [List.filter_cons_of_neg (by simp)]
        · rfl
      · rw [touch, if_neg atKey]
        split
        · rw [List.filter_cons_of_pos (by simpa using atKey)]
        · rfl

def filterMap {ε : Type*} (m : OrderedMap κ δ) (view : δ → Option ε) : OrderedMap κ ε where
  entries := m.entries.filterMap (fun entry => (view entry.2).map (Prod.mk entry.1))
  sorted := by
    apply m.sorted.filterMap
    rintro ⟨key, value⟩ ⟨key', value'⟩ below seen left seen' right
    rw [Option.map_eq_some_iff] at left right
    obtain ⟨_, _, rfl⟩ := left
    obtain ⟨_, _, rfl⟩ := right
    exact below

theorem get?_filterMap {ε : Type*} (m : OrderedMap κ δ) (view : δ → Option ε) (key : κ) :
    (m.filterMap view).get? key = (m.get? key).bind view := by
  ext seen
  rw [get?_eq_some, Option.bind_eq_some_iff]
  simp only [filterMap, List.mem_filterMap, Option.map_eq_some_iff, Prod.mk.injEq, get?_eq_some]
  constructor
  · rintro ⟨entry, member, value, shown, rfl, rfl⟩
    exact ⟨entry.2, member, shown⟩
  · rintro ⟨value, member, shown⟩
    exact ⟨(key, value), member, seen, shown, rfl, rfl⟩

theorem mem_map_touch (entries : List (κ × δ)) (key other : κ) (f : δ → δ) (value : δ)
    (member : (other, value) ∈ entries) :
    ∃ value', (other, value') ∈ entries.map (touch key f) := by
  have image := List.mem_map_of_mem (f := touch key f) member
  have split : touch key f (other, value) = (other, (touch key f (other, value)).2) :=
    Prod.ext (touch_key key f (other, value)) rfl
  rw [split] at image
  exact ⟨_, image⟩

theorem map_touch_absent (entries : List (κ × δ)) (key : κ) (f : δ → δ)
    (absent : ∀ entry ∈ entries, entry.1 ≠ key) : entries.map (touch key f) = entries := by
  conv_rhs => rw [← List.map_id entries]
  apply List.map_congr_left
  intro entry member
  simp [touch, absent entry member]

end OrderedMap

end EWallet
