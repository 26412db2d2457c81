import Veloxity.Control.Pipeline
import Veloxity.Library.Mean

/-! When the samples summed for a control update are averaged exactly. -/

namespace Veloxity

open Library

/-- Readings of a packet that are averaged: three axes of each sensor and the temperature. -/
inductive ImuReading where
  | accel (axis : Fin 3)
  | gyro (axis : Fin 3)
  | temperature

/-- One reading of a sample. -/
def ImuPacket.reading (sample : ImuPacket ℚ ℚ) : ImuReading → ℚ
  | .accel axis => sample.accel axis
  | .gyro axis => sample.gyro axis
  | .temperature => sample.temperature

/-- Sample whose readings are the means of those of a list of samples, under the newest header. -/
def meanSample (samples : List (ImuPacket ℚ ℚ)) : Option (ImuPacket ℚ ℚ) :=
  samples.getLast?.map fun newest =>
    { header := newest.header
      accel := fun axis => mean (samples.map (·.reading (.accel axis)))
      gyro := fun axis => mean (samples.map (·.reading (.gyro axis)))
      temperature := mean (samples.map (·.reading .temperature))
      seq := newest.seq }

/-- Every reading adds up to zero. -/
def Cancels (samples : List (ImuPacket ℚ ℚ)) : Prop :=
  ∀ reading, (samples.map (·.reading reading)).sum = 0

/-- The count is right, or nothing is divided by it. -/
def Countable (samples : List (ImuPacket ℚ ℚ)) : Prop :=
  samples.length ≤ 65535 ∨ Cancels samples

namespace ImuSampleAccumulator

/-- The sums after some samples since the last control update. -/
def accumulated (samples : List (ImuPacket ℚ ℚ)) : ImuSampleAccumulator ℚ ℚ :=
  samples.foldl push new

/-- One more sample is summed. -/
theorem accumulated_concat (samples : List (ImuPacket ℚ ℚ)) (sample : ImuPacket ℚ ℚ) :
    accumulated (samples ++ [sample]) = (accumulated samples).push sample := by
  rw [accumulated, List.foldl_append]
  rfl

/-- The sums, the count and the newest header after some samples. -/
structure Sums (accumulator : ImuSampleAccumulator ℚ ℚ) (samples : List (ImuPacket ℚ ℚ)) :
    Prop where
  accel : ∀ axis, accumulator.accelSum axis = (samples.map (·.reading (.accel axis))).sum
  gyro : ∀ axis, accumulator.gyroSum axis = (samples.map (·.reading (.gyro axis))).sum
  temperature : accumulator.temperatureSum = (samples.map (·.reading .temperature)).sum
  count : accumulator.count = min samples.length 65535
  newest : ∀ newest ∈ samples.getLast?,
    accumulator.latestHeader = newest.header ∧ accumulator.latestSeq = newest.seq

/-- Every sample is in the sums, and counted as far as the counter reaches. -/
theorem sums_accumulated (samples : List (ImuPacket ℚ ℚ)) : (accumulated samples).Sums samples := by
  -- Samples are appended one at a time.
  induction samples using List.reverseRecOn with
  | nil =>
    refine ⟨fun _ => rfl, fun _ => rfl, rfl, rfl, ?_⟩
    intro newest none
    cases none
  | append_singleton samples sample ih =>
    rw [accumulated_concat]
    refine ⟨?_, ?_, ?_, ?_, ?_⟩
    · intro axis
      rw [List.map_append, List.sum_append, List.map_singleton, List.sum_singleton, ← ih.accel]
      rfl
    · intro axis
      rw [List.map_append, List.sum_append, List.map_singleton, List.sum_singleton, ← ih.gyro]
      rfl
    · rw [List.map_append, List.sum_append, List.map_singleton, List.sum_singleton,
        ← ih.temperature]
      rfl
    · have counted := ih.count
      simp only [push, List.length_append, List.length_singleton]
      omega
    · intro newest last
      rw [List.getLast?_concat, Option.mem_some_iff] at last
      subst last
      exact ⟨rfl, rfl⟩

/-- The average divides every sum by the count, under the newest header. -/
theorem Sums.takeAverage_eq {accumulator : ImuSampleAccumulator ℚ ℚ}
    {samples : List (ImuPacket ℚ ℚ)} (sums : accumulator.Sums samples) {newest : ImuPacket ℚ ℚ}
    (last : samples.getLast? = some newest) :
    accumulator.takeAverage =
      (new, some
        { header := newest.header
          accel := fun axis =>
            (samples.map (·.reading (.accel axis))).sum / (accumulator.count : ℚ)
          gyro := fun axis => (samples.map (·.reading (.gyro axis))).sum / (accumulator.count : ℚ)
          temperature := (samples.map (·.reading .temperature)).sum / (accumulator.count : ℚ)
          seq := newest.seq }) := by
  have counted := sums.count
  -- A newest sample exists, so the count has left zero.
  have present : samples.length ≠ 0 := by
    rintro none
    rw [List.length_eq_zero_iff.mp none] at last
    cases last
  obtain ⟨header, seq⟩ := sums.newest newest last
  rw [takeAverage, if_neg (by omega), header, seq]
  simp only [← sums.accel, ← sums.gyro, ← sums.temperature]
  rfl

/-- The average taken of some samples is their mean and leaves nothing behind, exactly when they
are not too many to be counted or all add up to zero. -/
theorem takeAverage_accumulated_iff (samples : List (ImuPacket ℚ ℚ)) :
    (accumulated samples).takeAverage = (new, meanSample samples) ↔ Countable samples := by
  have sums := sums_accumulated samples
  have counted := sums.count
  cases last : samples.getLast? with
  | none =>
    -- Without a sample there is no average.
    rw [List.getLast?_eq_none_iff.mp last]
    exact iff_of_true rfl (Or.inl (Nat.zero_le _))
  | some newest =>
    have present : samples ≠ [] := by
      rintro rfl
      cases last
    have counted_some : samples.length ≠ 0 := fun none => present (List.length_eq_zero_iff.mp none)
    -- Each reading is judged on its own.
    have judged (reading : ImuReading) :
        (samples.map (·.reading reading)).sum / ((accumulated samples).count : ℚ) =
            mean (samples.map (·.reading reading)) ↔
          (accumulated samples).count = samples.length ∨
            (samples.map (·.reading reading)).sum = 0 := by
      have mapped : samples.map (·.reading reading) ≠ [] := fun none =>
        present (List.map_eq_nil_iff.mp none)
      rw [sum_div_eq_mean_iff mapped (by omega), List.length_map]
    have all : Countable samples ↔ ∀ reading, (accumulated samples).count = samples.length ∨
        (samples.map (·.reading reading)).sum = 0 := by
      rw [Countable, forall_or_left]
      exact or_congr (by omega) Iff.rfl
    rw [all, sums.takeAverage_eq last, meanSample, last, Option.map_some]
    constructor
    · intro same reading
      rw [← judged]
      simp only [Prod.mk.injEq, true_and, Option.some.injEq, ImuPacket.mk.injEq, and_true] at same
      obtain ⟨accel, gyro, temperature⟩ := same
      cases reading with
      | accel axis => exact congrFun accel axis
      | gyro axis => exact congrFun gyro axis
      | temperature => exact temperature
    · intro right
      simp only [judged _ |>.mpr (right _)]

end ImuSampleAccumulator

end Veloxity
