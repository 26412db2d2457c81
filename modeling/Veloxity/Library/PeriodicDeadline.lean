import Mathlib.Data.Nat.ModEq

/-! Deadlines that recur at a fixed interval and are caught up by whole intervals. -/

namespace Veloxity.Library

/-- The last deadline at or before the clock, counted in whole intervals from the one before. -/
def caughtUp (interval last now : Nat) : Nat := last + (now - last) / interval * interval

/-- The interval a clock reading falls in, counted from the start. -/
def slot (interval start now : Nat) : Nat := (now - start) / interval

section

variable {interval start last now : Nat}

/-- Catching up never goes back. -/
theorem le_caughtUp (interval last now : Nat) : last ≤ caughtUp interval last now :=
  Nat.le_add_right _ _

/-- Catching up never passes the clock. -/
theorem caughtUp_le (past : last ≤ now) : caughtUp interval last now ≤ now := by
  have whole := Nat.div_mul_le_self (now - last) interval
  rw [caughtUp]
  omega

/-- After catching up the clock is less than one interval ahead. -/
theorem lt_caughtUp_add (positive : 0 < interval) (past : last ≤ now) :
    now < caughtUp interval last now + interval := by
  -- What is left after whole intervals is less than one.
  have split := Nat.div_add_mod' (now - last) interval
  have rest := Nat.mod_lt (now - last) positive
  rw [caughtUp]
  omega

/-- Catching up keeps the phase of the deadlines. -/
theorem caughtUp_modEq (interval last now : Nat) :
    caughtUp interval last now ≡ last [MOD interval] := by
  -- Only whole intervals are added.
  simp [caughtUp, Nat.ModEq]

/-- A deadline is the start of its own slot. -/
theorem add_slot_mul (began : start ≤ last) (phase : last ≡ start [MOD interval]) :
    start + slot interval start last * interval = last := by
  have whole : interval ∣ last - start := (Nat.modEq_iff_dvd' began).mp phase.symm
  rw [slot, Nat.div_mul_cancel whole]
  omega

/-- A clock between a deadline and the next one is in the slot of the deadline. -/
theorem slot_eq_of_behind (began : start ≤ last) (phase : last ≡ start [MOD interval])
    (past : last ≤ now) (behind : now < last + interval) :
    slot interval start now = slot interval start last := by
  have positive : 0 < interval := by omega
  have deadline := add_slot_mul began phase
  -- The clock is a whole number of intervals and a remainder from the start.
  apply (Nat.div_eq_iff positive).mpr
  constructor
  · omega
  · omega

/-- A deadline that is due by an interval belongs to an earlier slot than the clock. -/
theorem slot_lt_of_due (positive : 0 < interval) (began : start ≤ last)
    (phase : last ≡ start [MOD interval]) (due : last + interval ≤ now) :
    slot interval start last < slot interval start now := by
  -- The slot after the deadline's own has begun.
  have deadline := add_slot_mul began phase
  have next : (slot interval start last + 1) * interval ≤ now - start := by
    rw [Nat.add_mul, Nat.one_mul]
    omega
  exact (Nat.le_div_iff_mul_le positive).mpr next

end

/-- A deadline that recurs in step with its start, at times that are each in a later slot than the
one before and none in a later slot than the deadline. -/
structure OncePerSlot (interval start last : Nat) (times : List Nat) : Prop where
  began : start ≤ last
  phase : last ≡ start [MOD interval]
  slots : (times.map (slot interval start)).Pairwise (· < ·)
  latest : ∀ time ∈ times, slot interval start time ≤ slot interval start last

section

variable {interval start last now : Nat} {times : List Nat}

/-- A deadline starts in step with itself. -/
theorem oncePerSlot_nil : OncePerSlot interval start start [] where
  began := Nat.le_refl _
  phase := Nat.ModEq.refl _
  slots := List.Pairwise.nil
  latest _ member := nomatch member

/-- A deadline may start with the first time itself. -/
theorem oncePerSlot_singleton : OncePerSlot interval start start [start] where
  began := Nat.le_refl _
  phase := Nat.ModEq.refl _
  slots := List.pairwise_singleton _ _
  latest _ member := (congrArg _ (List.mem_singleton.mp member)).le

/-- A clock at which the deadline is due is in a later slot than every time before. -/
theorem OncePerSlot.slot_lt (kept : OncePerSlot interval start last times)
    (positive : 0 < interval) (due : last + interval ≤ now) {time : Nat} (member : time ∈ times) :
    slot interval start time < slot interval start now :=
  (kept.latest time member).trans_lt (slot_lt_of_due positive kept.began kept.phase due)

/-- A clock at which the deadline is due is one more time, if the deadline is caught up then. -/
theorem OncePerSlot.concat (kept : OncePerSlot interval start last times)
    (positive : 0 < interval) (due : last + interval ≤ now) :
    OncePerSlot interval start (caughtUp interval last now) (times ++ [now]) := by
  have past : last ≤ now := by omega
  have began := kept.began.trans (le_caughtUp interval last now)
  have phase := (caughtUp_modEq interval last now).trans kept.phase
  -- The caught-up deadline is in the slot of the clock.
  have inSlot := slot_eq_of_behind began phase (caughtUp_le past) (lt_caughtUp_add positive past)
  refine ⟨began, phase, ?_, ?_⟩
  · rw [List.map_append]
    refine List.pairwise_append.mpr ⟨kept.slots, List.pairwise_singleton _ _, ?_⟩
    intro before earlier later this
    obtain ⟨time, member, rfl⟩ := List.mem_map.mp earlier
    rw [List.mem_singleton.mp this]
    exact kept.slot_lt positive due member
  · intro time either
    rw [← inSlot]
    rcases List.mem_append.mp either with earlier | this
    · exact (kept.slot_lt positive due earlier).le
    · exact (congrArg _ (List.mem_singleton.mp this)).le

end

end Veloxity.Library
