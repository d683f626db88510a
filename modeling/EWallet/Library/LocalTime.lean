import Mathlib.Algebra.Order.Ring.Int

namespace EWallet.LocalTime

structure Date where
  year : ℤ
  month : ℤ
  day : ℤ
  deriving DecidableEq, Repr

/-- The place of a day in its cycle of 400 years, which starts on 1 March: three centuries of
36524 days and one of 36525, in each 4 years of 1461 days, in these years of 365 days. -/
def yearDay (n : ℤ) : ℤ × ℤ :=
  let century := min (n / 36524) 3
  let inCentury := n - 36524 * century
  let quad := inCentury / 1461
  let inQuad := inCentury - 1461 * quad
  let year := min (inQuad / 365) 3
  (100 * century + 4 * quad + year, inQuad - 365 * year)

def dateOfDay (day : ℤ) : Date :=
  let shifted := day + 719468
  let place := yearDay (shifted % 146097)
  -- months are counted from March, so that the leap day comes last
  let month := (5 * place.2 + 2) / 153
  let year := 400 * (shifted / 146097) + place.1
  if month < 10 then ⟨year, month + 3, place.2 - (153 * month + 2) / 5 + 1⟩
  else ⟨year + 1, month - 9, place.2 - (153 * month + 2) / 5 + 1⟩

def dayOfDate (date : Date) : ℤ :=
  let year := if date.month < 3 then date.year - 1 else date.year
  let month := if date.month < 3 then date.month + 9 else date.month - 3
  let cycle := year % 400
  146097 * (year / 400) + 365 * cycle + cycle / 4 - cycle / 100 + (153 * month + 2) / 5 +
    date.day - 1 - 719468

theorem yearDay_spec (n : ℤ) (low : 0 ≤ n) (high : n < 146097) :
    0 ≤ (yearDay n).1 ∧ (yearDay n).1 < 400 ∧ 0 ≤ (yearDay n).2 ∧ (yearDay n).2 < 366 ∧
      365 * (yearDay n).1 + (yearDay n).1 / 4 - (yearDay n).1 / 100 + (yearDay n).2 = n := by
  simp only [yearDay]
  have century : 0 ≤ min (n / 36524) 3 ∧ min (n / 36524) 3 ≤ 3 ∧
      0 ≤ n - 36524 * min (n / 36524) 3 ∧ n - 36524 * min (n / 36524) 3 ≤ 36524 := by omega
  generalize min (n / 36524) 3 = c at century ⊢
  generalize split : n - 36524 * c = inCentury at century ⊢
  have quad : 0 ≤ inCentury / 1461 ∧ inCentury / 1461 ≤ 24 ∧
      0 ≤ inCentury - 1461 * (inCentury / 1461) ∧
      inCentury - 1461 * (inCentury / 1461) ≤ 1460 := by omega
  generalize inCentury / 1461 = q at quad ⊢
  generalize rest : inCentury - 1461 * q = inQuad at quad ⊢
  have year : 0 ≤ min (inQuad / 365) 3 ∧ min (inQuad / 365) 3 ≤ 3 ∧
      0 ≤ inQuad - 365 * min (inQuad / 365) 3 ∧
      inQuad - 365 * min (inQuad / 365) 3 < 366 := by omega
  generalize min (inQuad / 365) 3 = y at year ⊢
  have fours : (100 * c + 4 * q + y) / 4 = 25 * c + q := by omega
  have hundreds : (100 * c + 4 * q + y) / 100 = c := by omega
  rw [fours, hundreds]
  omega

theorem dayOfDate_dateOfDay (day : ℤ) : dayOfDate (dateOfDay day) = day := by
  have place := yearDay_spec ((day + 719468) % 146097) (by omega) (by omega)
  simp only [dateOfDay]
  generalize yearDay ((day + 719468) % 146097) = p at place ⊢
  obtain ⟨year, rest⟩ := p
  simp only at place ⊢
  have month : 0 ≤ (5 * rest + 2) / 153 ∧ (5 * rest + 2) / 153 < 12 := by omega
  generalize (5 * rest + 2) / 153 = m at month ⊢
  have cycles : (400 * ((day + 719468) / 146097) + year) / 400 = (day + 719468) / 146097 := by omega
  have cycle : (400 * ((day + 719468) / 146097) + year) % 400 = year := by omega
  split
  · rename_i early
    simp only [dayOfDate]
    rw [if_neg (by omega), if_neg (by omega), cycles, cycle, add_sub_cancel_right]
    omega
  · rename_i late
    simp only [dayOfDate]
    rw [if_pos (by omega), if_pos (by omega), add_sub_cancel_right, cycles, cycle,
      sub_add_cancel]
    omega

example : [0, 11016, 18931].map dateOfDay = [⟨1970, 1, 1⟩, ⟨2000, 2, 29⟩, ⟨2021, 10, 31⟩] := by
  decide

structure Fields where
  date : Date
  hour : ℤ
  minute : ℤ
  second : ℤ
  micro : ℤ
  deriving DecidableEq, Repr

def fields (micros : ℤ) : Fields :=
  let time := micros % 86400000000
  ⟨dateOfDay (micros / 86400000000), time / 3600000000, time / 60000000 % 60,
    time / 1000000 % 60, time % 1000000⟩

def ofFields (f : Fields) : ℤ :=
  dayOfDate f.date * 86400000000 + f.hour * 3600000000 + f.minute * 60000000 +
    f.second * 1000000 + f.micro

theorem ofFields_fields (micros : ℤ) : ofFields (fields micros) = micros := by
  simp only [ofFields, fields, dayOfDate_dateOfDay]
  omega

theorem fields_injective : Function.Injective fields :=
  Function.LeftInverse.injective ofFields_fields

section View

variable {α β : Type*} (view : α → β)

/-- `pick` answers each view with one of the values that have it. -/
def Picks (pick : β → α) : Prop := ∀ a, view (pick (view a)) = view a

theorem picked_iff_alone (a : α) :
    (∀ pick, Picks view pick → pick (view a) = a) ↔ ∀ b, view b = view a → b = a := by
  classical
  constructor
  · intro back b same
    have : Nonempty α := ⟨a⟩
    have picks : Picks view (Function.update (Function.invFun view) (view a) b) := by
      intro c
      by_cases there : view c = view a
      · rw [there, Function.update_self, same]
      · rw [Function.update_of_ne there]
        exact Function.invFun_eq ⟨c, rfl⟩
    rw [← back _ picks, Function.update_self]
  · intro alone pick picks
    exact alone _ (picks a)

theorem not_both_picked (pick : β → α) {a b : α} (same : view a = view b) (different : a ≠ b) :
    ¬ (pick (view a) = a ∧ pick (view b) = b) := by
  rintro ⟨first, second⟩
  rw [← same, first] at second
  exact different second

end View

def wallClock (offset : ℤ → ℤ) (instant : ℤ) : ℤ := instant + offset instant

def changed (instant before after : ℤ) (t : ℤ) : ℤ := if t < instant then before else after

theorem wallClock_injective (offset : ℤ → ℤ) (forward : ∀ s t, s ≤ t → offset s ≤ offset t) :
    Function.Injective (wallClock offset) := by
  intro first second same
  simp only [wallClock] at same
  rcases le_total first second with before | after
  · have step := forward first second before
    omega
  · have step := forward second first after
    omega

/-- A clock that is set once shows a reading twice exactly for the instants that lie less than the
setback away from the change. -/
theorem shown_twice_iff (instant before after t : ℤ) :
    (∃ t', t' ≠ t ∧ wallClock (changed instant before after) t' =
        wallClock (changed instant before after) t) ↔
      instant - (before - after) ≤ t ∧ t < instant + (before - after) := by
  constructor
  · rintro ⟨t', different, same⟩
    simp only [wallClock, changed] at same
    split at same <;> split at same <;> omega
  · rintro ⟨low, high⟩
    by_cases early : t < instant
    · refine ⟨t + (before - after), by omega, ?_⟩
      simp only [wallClock, changed]
      rw [if_pos early, if_neg (by omega)]
      omega
    · refine ⟨t - (before - after), by omega, ?_⟩
      simp only [wallClock, changed]
      rw [if_neg early, if_pos (by omega)]
      omega

end EWallet.LocalTime
