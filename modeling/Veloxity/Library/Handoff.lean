import Mathlib.Data.List.Basic

/-! Numbered items handed over through one place, where a newer item takes over from the last. -/

namespace Veloxity.Library

universe u

variable {α : Type u}

/-- The items offered so far, which are numbered from one, and those taken, each with its number. -/
structure Handoff (α : Type u) where
  offered : List α
  taken : List (α × Nat)
  inOrder : taken.Sublist (offered.zipIdx 1)

namespace Handoff

/-- Nothing has been offered. -/
def empty : Handoff α := ⟨[], [], .slnil⟩

/-- Number of the last item taken, or zero. -/
def last (handoff : Handoff α) : Nat := (handoff.taken.getLast?.map Prod.snd).getD 0

/-- Another item has been offered, and was given the next number. -/
theorem zipIdx_concat (offered : List α) (item : α) :
    (offered ++ [item]).zipIdx 1 = offered.zipIdx 1 ++ [(item, offered.length + 1)] := by
  simp [List.zipIdx_append, Nat.add_comm]

/-- Offer an item. -/
def offer (handoff : Handoff α) (item : α) : Handoff α where
  offered := handoff.offered ++ [item]
  taken := handoff.taken
  inOrder := by
    rw [zipIdx_concat]
    exact handoff.inOrder.trans (List.sublist_append_left _ _)

/-- No item taken has a higher number than there are items. -/
theorem last_le (handoff : Handoff α) : handoff.last ≤ handoff.offered.length := by
  rw [last]
  -- The last number taken is the position of an item that was offered.
  cases newest : handoff.taken.getLast? with
  | none => exact Nat.zero_le _
  | some entry =>
    have member := handoff.inOrder.subset (List.mem_of_getLast? newest)
    obtain ⟨-, within, -⟩ := List.mem_zipIdx member
    simp only [Option.map_some, Option.getD_some]
    omega

/-- Where the newest item is not the last one taken, those taken are among the ones before it. -/
theorem taken_before {handoff : Handoff α} {before : List α} {newest : α}
    (split : handoff.offered = before ++ [newest])
    (waits : handoff.last < handoff.offered.length) :
    handoff.taken.Sublist (before.zipIdx 1) := by
  have order := handoff.inOrder
  rw [split, zipIdx_concat, List.sublist_append_iff] at order
  obtain ⟨earlier, rest, same, old, new⟩ := order
  rcases List.eq_nil_or_concat rest with rfl | ⟨others, entry, rfl⟩
  · rwa [same, List.append_nil]
  · -- An entry taken out of the newest one would be the last one taken.
    exfalso
    have found := List.mem_singleton.mp (new.subset (by simp : entry ∈ others.concat entry))
    subst found
    have top : handoff.last = before.length + 1 := by
      simp [last, same, List.concat_eq_append, ← List.append_assoc]
    rw [split] at waits
    simp only [List.length_append, List.length_singleton] at waits
    omega

/-- The newest item has the highest number. -/
theorem zipIdx_newest {offered : List α} (some : offered ≠ []) :
    offered.zipIdx 1 =
      offered.dropLast.zipIdx 1 ++ [(offered.getLast some, offered.length)] := by
  -- The newest item is split off the end of the list.
  have split := (List.dropLast_append_getLast some).symm
  have length : offered.length = offered.dropLast.length + 1 := by
    have positive := List.length_pos_of_ne_nil some
    rw [List.length_dropLast]
    omega
  rw [length, ← zipIdx_concat, ← split]

/-- The newest item can be taken behind the others. -/
theorem inOrder_newest {handoff : Handoff α} (waits : handoff.last < handoff.offered.length)
    (some : handoff.offered ≠ []) :
    (handoff.taken ++ [(handoff.offered.getLast some, handoff.offered.length)]).Sublist
      (handoff.offered.zipIdx 1) := by
  have before := taken_before (List.dropLast_append_getLast some).symm waits
  rw [zipIdx_newest some]
  exact before.append (List.Sublist.refl _)

/-- Take the newest item, unless it was taken before. -/
def take (handoff : Handoff α) : Handoff α :=
  if waits : handoff.last < handoff.offered.length then
    have some : handoff.offered ≠ [] := List.ne_nil_of_length_pos (Nat.zero_lt_of_lt waits)
    { handoff with
      taken := handoff.taken ++ [(handoff.offered.getLast some, handoff.offered.length)]
      inOrder := inOrder_newest waits some }
  else handoff

@[simp] theorem offered_offer (handoff : Handoff α) (item : α) :
    (handoff.offer item).offered = handoff.offered ++ [item] := rfl

@[simp] theorem last_offer (handoff : Handoff α) (item : α) :
    (handoff.offer item).last = handoff.last := rfl

@[simp] theorem offered_take (handoff : Handoff α) : handoff.take.offered = handoff.offered := by
  rw [take]
  split <;> rfl

/-- The newest item is the last one taken. -/
@[simp] theorem last_take (handoff : Handoff α) : handoff.take.last = handoff.offered.length := by
  rw [take]
  split
  · simp [last]
  · -- An item that does not wait has been taken.
    have bound := handoff.last_le
    omega

/-- The last item taken is found under its number. -/
theorem newest_taken {handoff : Handoff α} (some : 0 < handoff.last) :
    handoff.taken.getLast?.map Prod.fst = handoff.offered[handoff.last - 1]? := by
  -- A number is one more than the position of its item.
  cases newest : handoff.taken.getLast? with
  | none => simp [last, newest] at some
  | some entry =>
    obtain ⟨item, number⟩ := entry
    have top : handoff.last = number := by simp [last, newest]
    have member := handoff.inOrder.subset (List.mem_of_getLast? newest)
    obtain ⟨-, found⟩ := List.mk_mem_zipIdx_iff_le_and_getElem?_sub.mp member
    rw [top, found]
    rfl

/-- All items were taken. -/
def Complete (handoff : Handoff α) : Prop := handoff.taken = handoff.offered.zipIdx 1

/-- All items were taken but perhaps the newest one. -/
def Gapless (handoff : Handoff α) : Prop :=
  ∃ rest, handoff.offered.zipIdx 1 = handoff.taken ++ rest ∧ rest.length ≤ 1

/-- Of no items all were taken. -/
theorem complete_empty : (empty : Handoff α).Complete := rfl

/-- Where all items were taken none is missing. -/
theorem Complete.gapless {handoff : Handoff α} (complete : handoff.Complete) : handoff.Gapless :=
  ⟨[], by rw [complete, List.append_nil], Nat.zero_le _⟩

/-- One more item leaves only itself to be taken. -/
theorem Complete.offer {handoff : Handoff α} (complete : handoff.Complete) (item : α) :
    (handoff.offer item).Gapless := by
  refine ⟨[(item, handoff.offered.length + 1)], ?_, Nat.le_refl _⟩
  rw [offered_offer, zipIdx_concat, ← complete]
  rfl

/-- The last of all items taken is the newest one. -/
theorem Complete.last_eq {handoff : Handoff α} (complete : handoff.Complete) :
    handoff.last = handoff.offered.length := by
  -- Without items both sides are zero.
  by_cases none : handoff.offered = []
  · rw [last, complete, none]
    rfl
  · rw [last, complete, zipIdx_newest none, List.getLast?_concat]
    rfl

/-- Without a gap all items were taken, or all but the newest one. -/
theorem Gapless.cases {handoff : Handoff α} (gapless : handoff.Gapless) :
    handoff.Complete ∨ ∃ some : handoff.offered ≠ [], handoff.offered.zipIdx 1 =
      handoff.taken ++ [(handoff.offered.getLast some, handoff.offered.length)] := by
  obtain ⟨rest, split, short⟩ := gapless
  rcases rest with _ | ⟨missing, others⟩
  · exact .inl (by rw [Complete, split, List.append_nil])
  · have alone : others = [] := by
      rw [List.length_cons] at short
      exact List.eq_nil_of_length_eq_zero (by omega)
    subst alone
    have some : handoff.offered ≠ [] := by
      intro none
      simp [none] at split
    -- The one that is missing is the one with the highest number.
    obtain ⟨-, newest⟩ := List.append_inj' (split.symm.trans (zipIdx_newest some)) rfl
    exact .inr ⟨some, newest ▸ split⟩

/-- Without a gap all items were taken once the newest one was. -/
theorem Gapless.complete {handoff : Handoff α} (gapless : handoff.Gapless)
    (upToDate : handoff.offered.length ≤ handoff.last) : handoff.Complete := by
  rcases gapless.cases with complete | ⟨some, split⟩
  · exact complete
  · -- The last one taken would stand in front of the newest one.
    exfalso
    obtain ⟨older, -⟩ := List.append_inj' (split.symm.trans (zipIdx_newest some)) rfl
    have bound : handoff.last ≤ handoff.offered.dropLast.length :=
      last_le ⟨handoff.offered.dropLast, handoff.taken, older ▸ List.Sublist.refl _⟩
    have positive := List.length_pos_of_ne_nil some
    rw [List.length_dropLast] at bound
    omega

/-- Without a gap all items are taken once the newest one is. -/
theorem Gapless.take {handoff : Handoff α} (gapless : handoff.Gapless) :
    handoff.take.Complete := by
  -- Taking adds the newest item, which is the only one missing.
  by_cases waits : handoff.last < handoff.offered.length
  · rw [Handoff.take, dif_pos waits]
    rcases gapless.cases with complete | ⟨some, split⟩
    · have reached := complete.last_eq
      omega
    · exact split.symm
  · rw [Handoff.take, dif_neg waits]
    exact gapless.complete (by omega)

end Handoff

end Veloxity.Library
