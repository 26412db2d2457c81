import Mathlib.Data.List.Basic

/-! A place for one item that a newer one takes over, read by a reader that wants rising stamps. -/

namespace Veloxity.Library

universe u v

variable {α : Type u} {β : Type v}

/-- A place for one item, with a flag that says whether the item is still to be read. -/
structure SignalSlot (α : Type u) where
  has : Bool
  value : α
  deriving DecidableEq, Repr

namespace SignalSlot

/-- An item that comes takes the place over, and nothing that comes leaves it alone. -/
def merge (pending incoming : SignalSlot α) : SignalSlot α :=
  if incoming.has then { pending with has := true, value := incoming.value } else pending

/-- The item has been read. -/
def clear (slot : SignalSlot α) : SignalSlot α := { slot with has := false }

/-- The item that is still to be read, if there is one. -/
def unread (slot : SignalSlot α) : Option α := if slot.has then some slot.value else none

/-- The item that is still to be read if its stamp is above the last one, which it then replaces. -/
def fresh (stamp : α → Nat) (last : Nat) (slot : SignalSlot α) : Option α × Nat :=
  if slot.has && last < stamp slot.value then (some slot.value, stamp slot.value) else (none, last)

/-- The item that is still to be read, which a reader that checks stamps passes over if it is no
newer than the last one. -/
def take (checked : Bool) (stamp : α → Nat) (last : Nat) (slot : SignalSlot α) :
    Option α × Nat :=
  if checked then slot.fresh stamp last else (slot.unread, last)

@[simp] theorem unread_clear (slot : SignalSlot α) : slot.clear.unread = none := rfl

/-- What is still to be read is what came last. -/
@[simp] theorem unread_merge (pending incoming : SignalSlot α) :
    (pending.merge incoming).unread = incoming.unread.or pending.unread := by
  -- The two cases of a merge are whether something comes.
  cases comes : incoming.has <;> simp [merge, unread, comes]

/-- A reader is shown what is still to be read, unless its stamp has been reached before. -/
theorem fresh_eq (stamp : α → Nat) (last : Nat) (slot : SignalSlot α) :
    slot.fresh stamp last =
      match slot.unread with
      | some item => if last < stamp item then (some item, stamp item) else (none, last)
      | none => (none, last) := by
  cases waits : slot.has <;> simp [fresh, unread, waits]

/-- The items a reader has taken out of those offered so far: in their order, none of them still to
be read, and, if the reader checks stamps, with rising stamps up to the last one. -/
structure Taken (checked : Bool) (stamp : α → Nat) (slot : SignalSlot α) (last : Nat)
    (offered taken : List α) : Prop where
  inOrder : ∃ spent, taken.Sublist spent ∧ offered = spent ++ slot.unread.toList
  rising : checked = true → (taken.map stamp).Pairwise (· < ·)
  within : checked = true → ∀ item ∈ taken, 0 < stamp item ∧ stamp item ≤ last
  reached : checked = true → last = 0 ∨ last ∈ taken.map stamp

namespace Taken

variable {checked : Bool} {stamp : α → Nat} {slot : SignalSlot α} {last : Nat}
  {offered taken : List α}

/-- Before anything was offered nothing was taken. -/
theorem start (unoffered : slot.has = false) : Taken checked stamp slot 0 [] [] where
  inOrder := ⟨[], .slnil, by simp [unread, unoffered]⟩
  rising _ := .nil
  within _ _ none := absurd none List.not_mem_nil
  reached _ := .inl rfl

/-- An item that is offered may take the place of one that was still to be read. -/
theorem merge (account : Taken checked stamp slot last offered taken) (incoming : SignalSlot α) :
    Taken checked stamp (slot.merge incoming) last (offered ++ incoming.unread.toList) taken := by
  obtain ⟨⟨spent, order, split⟩, rising, within, reached⟩ := account
  refine ⟨?_, rising, within, reached⟩
  rw [unread_merge]
  cases comes : incoming.unread with
  | none => exact ⟨spent, order, by simp [split]⟩
  | some item =>
    -- The item that was to be read counts as spent, although nobody has taken it.
    exact ⟨offered, split ▸ order.trans (List.sublist_append_left _ _), by simp⟩

/-- What was still to be read is spent once the place is cleared, whether it was taken or not. -/
theorem spent_clear (account : Taken checked stamp slot last offered taken) :
    ∃ spent, taken.Sublist spent ∧ offered = spent ++ slot.clear.unread.toList := by
  -- The cleared place leaves nothing behind the items spent.
  obtain ⟨spent, order, split⟩ := account.inOrder
  exact ⟨offered, split ▸ order.trans (List.sublist_append_left _ _), by simp⟩

/-- A reader that checks stamps takes the item if its stamp is above those of the others. -/
theorem read_checked (account : Taken true stamp slot last offered taken) :
    Taken true stamp slot.clear (slot.fresh stamp last).2 offered
      (taken ++ (slot.fresh stamp last).1.toList) := by
  have nothing := account.spent_clear
  obtain ⟨⟨spent, order, split⟩, rising, within, reached⟩ := account
  rw [fresh_eq]
  cases waits : slot.unread with
  | none => simpa using ⟨nothing, rising, within, reached⟩
  | some item =>
    by_cases newer : last < stamp item
    · simp only [newer, if_true, Option.toList_some]
      refine ⟨⟨offered, ?_, by simp⟩, fun _ => ?_, fun _ => ?_, fun _ => .inr (by simp)⟩
      · rw [split, waits]
        exact order.append (List.Sublist.refl _)
      · -- Every stamp taken before is at most the last one.
        rw [List.map_append, List.pairwise_append]
        refine ⟨rising rfl, List.pairwise_singleton _ _, ?_⟩
        intro earlier taken later same
        obtain ⟨old, member, rfl⟩ := List.mem_map.mp taken
        rw [List.map_singleton, List.mem_singleton] at same
        have bound := (within rfl old member).2
        omega
      · intro reported member
        rcases List.mem_append.mp member with old | new
        · have bound := within rfl reported old
          omega
        · obtain rfl := List.mem_singleton.mp new
          omega
    · simp only [newer, if_false, Option.toList_none, List.append_nil]
      exact ⟨nothing, rising, within, reached⟩

/-- The item that is read is taken, by a reader that checks stamps only if its stamp is new. -/
theorem read (account : Taken checked stamp slot last offered taken) :
    Taken checked stamp slot.clear (slot.take checked stamp last).2 offered
      (taken ++ (slot.take checked stamp last).1.toList) := by
  cases checked with
  | true => exact account.read_checked
  | false =>
    -- Without a check whatever is still to be read is taken, and stamps do not matter.
    obtain ⟨spent, order, split⟩ := account.inOrder
    refine ⟨⟨offered, ?_, by simp⟩, ?_, ?_, ?_⟩
    · rw [split]
      exact order.append (List.Sublist.refl _)
    all_goals exact fun unchecked => absurd unchecked Bool.false_ne_true

/-- The items taken are some of those offered, in their order. -/
theorem sublist (account : Taken checked stamp slot last offered taken) :
    taken.Sublist offered := by
  -- They are among the spent items, which are the first of those offered.
  obtain ⟨spent, order, split⟩ := account.inOrder
  exact split ▸ order.trans (List.sublist_append_left _ _)

/-- Whatever is still to be read is taken, if the reader checks no stamps or if the stamps of all
items offered rise. -/
theorem take_of_rising (account : Taken checked stamp slot last offered taken)
    (rises : checked = true → (0 :: offered.map stamp).Pairwise (· < ·)) :
    (slot.take checked stamp last).1 = slot.unread := by
  obtain ⟨⟨spent, order, split⟩, -, -, reached⟩ := account
  cases checked with
  | false => rfl
  | true =>
    have rises := rises rfl
    simp only [take, if_true, fresh_eq]
    cases waits : slot.unread with
    | none => rfl
    | some item =>
      -- The last stamp is that of an item offered before, or none was taken.
      rw [split, waits, Option.toList_some, List.map_append, List.pairwise_cons,
        List.pairwise_append] at rises
      have above : last < stamp item := by
        rcases reached rfl with none | some
        · rw [none]
          exact rises.1 _ (by simp)
        · exact rises.2.2.2 last ((order.map stamp).subset some) _ (by simp)
      simp [above]

end Taken

/-- The reports of a reader: packets of some of the items offered, in their order, and with rising
stamps if the reader checks them. -/
def RisingReports (checked : Bool) (stamp : α → Nat) (packet : α → β) (offered : List α)
    (reported : List β) : Prop :=
  ∃ taken : List α, taken.Sublist offered ∧
    (checked = true → (0 :: taken.map stamp).Pairwise (· < ·)) ∧ reported = taken.map packet

/-- What a reader has reported is made from the items it has taken. -/
def Reported (checked : Bool) (stamp : α → Nat) (packet : α → β) (slot : SignalSlot α) (last : Nat)
    (offered : List α) (reported : List β) : Prop :=
  ∃ taken, Taken checked stamp slot last offered taken ∧ reported = taken.map packet

namespace Reported

variable {checked : Bool} {stamp : α → Nat} {packet : α → β} {slot : SignalSlot α} {last : Nat}
  {offered : List α} {reported : List β}

/-- Before anything was offered nothing was reported. -/
theorem start (unoffered : slot.has = false) : Reported checked stamp packet slot 0 [] [] :=
  ⟨[], .start unoffered, rfl⟩

/-- An item that is offered changes nothing about the reports. -/
theorem merge (account : Reported checked stamp packet slot last offered reported)
    (incoming : SignalSlot α) :
    Reported checked stamp packet (slot.merge incoming) last (offered ++ incoming.unread.toList)
      reported := by
  obtain ⟨taken, account, same⟩ := account
  exact ⟨taken, account.merge incoming, same⟩

/-- An item that is read is reported if it is taken. -/
theorem read (account : Reported checked stamp packet slot last offered reported) :
    Reported checked stamp packet slot.clear (slot.take checked stamp last).2 offered
      (reported ++ ((slot.take checked stamp last).1.map packet).toList) := by
  obtain ⟨taken, account, rfl⟩ := account
  refine ⟨_, account.read, ?_⟩
  cases (slot.take checked stamp last).1 <;> simp

/-- The reports are made from some of the items offered, and their stamps rise if checked. -/
theorem rising (account : Reported checked stamp packet slot last offered reported) :
    RisingReports checked stamp packet offered reported := by
  obtain ⟨taken, account, same⟩ := account
  refine ⟨taken, account.sublist, fun checks => ?_, same⟩
  -- No item with stamp zero is taken.
  refine List.pairwise_cons.mpr ⟨?_, account.rising checks⟩
  intro reached member
  obtain ⟨item, found, rfl⟩ := List.mem_map.mp member
  exact (account.within checks item found).1

/-- The next report has what is still to be read, if the reader checks no stamps or if the stamps
of all items offered rise. -/
theorem next_of_rising (account : Reported checked stamp packet slot last offered reported)
    (rises : checked = true → (0 :: offered.map stamp).Pairwise (· < ·)) :
    (slot.take checked stamp last).1 = slot.unread := by
  obtain ⟨taken, account, -⟩ := account
  exact account.take_of_rising rises

end Reported

end SignalSlot

end Veloxity.Library
