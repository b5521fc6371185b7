import Mathlib.Algebra.Group.Int.Defs
import Mathlib.Algebra.Group.Nat.Defs
import Mathlib.Tactic.Common


/-! Times and durations within limits, in nanoseconds; what is outside of them panics. -/

namespace Chrono

/-- What may panic, with the text that it then fails with. -/
abbrev Panics := Except String

def nanosPerDay : Int := 86400 * 10 ^ 9

/-- How long a duration can be, and from when to when there are times. -/
structure Limits where
  maxDays : Nat
  first : Int
  last : Int
  days_lt : maxDays < 2 ^ 63
  span : last - first < 2 ^ 63 * nanosPerDay

/-- A time, counted from the epoch. -/
@[ext] structure DateTime (limits : Limits) where
  nanos : Int
  after : limits.first ≤ nanos
  before : nanos ≤ limits.last

section
variable {limits : Limits}

/-- A duration of days. -/
def durationDays (limits : Limits) (days : Int) : Panics Int :=
  if days.natAbs ≤ limits.maxDays then .ok (days * nanosPerDay)
  else .error "TimeDelta::days out of bounds"

def DateTime.sub (time : DateTime limits) (duration : Int) : Panics (DateTime limits) :=
  if h : limits.first ≤ time.nanos - duration ∧ time.nanos - duration ≤ limits.last then
    .ok ⟨time.nanos - duration, h.1, h.2⟩
  else .error "DateTime - TimeDelta overflowed"

/-- The time that many days before another one. -/
def DateTime.subDays (time : DateTime limits) (days : Int) : Panics (DateTime limits) := do
  let duration ← durationDays limits days
  time.sub duration

theorem DateTime.subDays_eq_ok {time earlier : DateTime limits} {days : Int} :
    time.subDays days = .ok earlier ↔
      days.natAbs ≤ limits.maxDays ∧ earlier.nanos = time.nanos - days * nanosPerDay := by
  rw [subDays, durationDays]
  by_cases hdays : days.natAbs ≤ limits.maxDays
  · rw [if_pos hdays]
    change time.sub _ = _ ↔ _
    rw [sub]
    constructor
    · intro h
      split at h
      · cases h
        exact ⟨hdays, rfl⟩
      · cases h
    · intro ⟨_, heq⟩
      rw [dif_pos ⟨heq ▸ earlier.after, heq ▸ earlier.before⟩]
      obtain ⟨nanos, after, before⟩ := earlier
      cases heq
      rfl
  · rw [if_neg hdays]
    constructor
    · intro h
      cases h
    · intro h
      exact absurd h.1 hdays

end
end Chrono
