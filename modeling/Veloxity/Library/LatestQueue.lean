import Mathlib.Data.Fintype.Card
import Mathlib.Data.List.Nodup

/-! Queues that keep only the newest item of each key, in the order the keys became pending. -/

namespace Veloxity.Library

universe u v

variable {κ : Type u} {α : Type v}

/-- Waiting items in order, no two of them under one key. -/
structure LatestQueue (κ : Type u) (α : Type v) where
  entries : List (κ × α)
  distinct : (entries.map Prod.fst).Nodup

/-- Entries with the item under a key exchanged for another one. -/
def renewEntry [DecidableEq κ] (key : κ) (item : α) (entry : κ × α) : κ × α :=
  if entry.1 = key then (key, item) else entry

/-- An exchange of items leaves the keys alone. -/
theorem fst_renewEntry [DecidableEq κ] (key : κ) (item : α) (entry : κ × α) :
    (renewEntry key item entry).1 = entry.1 := by
  -- Only the item is exchanged.
  unfold renewEntry
  split
  · rename_i same
    exact same.symm
  · rfl

/-- Entries whose items under one key were exchanged have the keys they had. -/
theorem keys_renewed [DecidableEq κ] (key : κ) (item : α) (entries : List (κ × α)) :
    (entries.map (renewEntry key item)).map Prod.fst = entries.map Prod.fst := by
  -- Key by key, the exchange is invisible.
  rw [List.map_map]
  apply List.map_congr_left
  intro entry _
  exact fst_renewEntry key item entry

/-- A key that is not among others makes the list of them longer by a different one. -/
theorem nodup_keys_append {entries : List (κ × α)} {key : κ}
    (distinct : (entries.map Prod.fst).Nodup) (absent : key ∉ entries.map Prod.fst) (item : α) :
    ((entries ++ [(key, item)]).map Prod.fst).Nodup := by
  rw [List.map_append, List.map_singleton, ← List.concat_eq_append]
  exact distinct.concat absent

/-- Keys stay pairwise different when items under one of them are exchanged. -/
theorem nodup_keys_renewed [DecidableEq κ] {entries : List (κ × α)}
    (distinct : (entries.map Prod.fst).Nodup) (key : κ) (item : α) :
    ((entries.map (renewEntry key item)).map Prod.fst).Nodup := by
  rw [keys_renewed]
  exact distinct

/-- Keys stay pairwise different when the first entry leaves. -/
theorem nodup_keys_tail {entries : List (κ × α)} (distinct : (entries.map Prod.fst).Nodup) :
    (entries.tail.map Prod.fst).Nodup := by
  rw [List.map_tail]
  exact distinct.tail

namespace LatestQueue

/-- A queue with nothing waiting. -/
def empty : LatestQueue κ α := ⟨[], List.nodup_nil⟩

/-- The pending keys in order. -/
def keys (queue : LatestQueue κ α) : List κ := queue.entries.map Prod.fst

/-- Put an item in the place of the one that waits under its key, or behind all others. -/
def offer [DecidableEq κ] (queue : LatestQueue κ α) (key : κ) (item : α) : LatestQueue κ α :=
  if pending : key ∈ queue.keys then
    ⟨queue.entries.map (renewEntry key item), nodup_keys_renewed queue.distinct key item⟩
  else ⟨queue.entries ++ [(key, item)], nodup_keys_append queue.distinct pending item⟩

/-- The item under the key that became pending first. -/
def next (queue : LatestQueue κ α) : Option α := queue.entries.head?.map Prod.snd

/-- What waits once the first item has been taken out. -/
def rest (queue : LatestQueue κ α) : LatestQueue κ α :=
  ⟨queue.entries.tail, nodup_keys_tail queue.distinct⟩

/-- An item that waits already gives its place to the newer one. -/
theorem entries_offer_of_mem [DecidableEq κ] {queue : LatestQueue κ α} {key : κ}
    (pending : key ∈ queue.keys)
    (item : α) : (queue.offer key item).entries = queue.entries.map (renewEntry key item) := by
  rw [offer, dif_pos pending]

/-- An item under a new key goes behind all others. -/
theorem entries_offer_of_notMem [DecidableEq κ] {queue : LatestQueue κ α} {key : κ}
    (idle : key ∉ queue.keys) (item : α) :
    (queue.offer key item).entries = queue.entries ++ [(key, item)] := by
  rw [offer, dif_neg idle]

/-- A list of ready keys and a slot for each key hold exactly what waits in a queue. -/
structure HeldBy (queue : LatestQueue κ α) (ready : List κ) (slots : κ → Option α) : Prop where
  order : ready = queue.keys
  items : ∀ key item, slots key = some item ↔ (key, item) ∈ queue.entries

/-- Nothing waits in empty slots. -/
theorem heldBy_empty : HeldBy (empty : LatestQueue κ α) [] fun _ => none := by
  refine ⟨rfl, ?_⟩
  intro key item
  simp [empty]

namespace HeldBy

variable {queue : LatestQueue κ α} {ready : List κ} {slots : κ → Option α}

/-- A slot is occupied exactly when its key is ready. -/
theorem isSome_iff (held : HeldBy queue ready slots) (key : κ) :
    (slots key).isSome ↔ key ∈ ready := by
  -- Both say that some item waits under the key.
  rw [held.order, Option.isSome_iff_exists, keys, List.mem_map]
  constructor
  · rintro ⟨item, occupied⟩
    exact ⟨(key, item), (held.items key item).mp occupied, rfl⟩
  · rintro ⟨⟨other, item⟩, member, same⟩
    obtain rfl : other = key := same
    exact ⟨item, (held.items other item).mpr member⟩

/-- Ready keys are pairwise different. -/
theorem nodup (held : HeldBy queue ready slots) : ready.Nodup := by
  rw [held.order]
  exact queue.distinct

/-- A key is ready once if its slot is occupied, and otherwise not at all. -/
theorem count_eq [DecidableEq κ] (held : HeldBy queue ready slots) (key : κ) :
    ready.count key = if (slots key).isSome then 1 else 0 := by
  -- No key is ready twice.
  by_cases member : key ∈ ready
  · rw [if_pos ((held.isSome_iff key).mpr member), List.count_eq_one_of_mem held.nodup member]
  · have vacant : ¬ (slots key).isSome := fun occupied => member ((held.isSome_iff key).mp occupied)
    rw [if_neg vacant, List.count_eq_zero_of_not_mem member]

/-- While a slot is vacant, fewer keys are ready than there are. -/
theorem length_lt [Fintype κ] (held : HeldBy queue ready slots) {key : κ}
    (vacant : slots key = none) : ready.length < Fintype.card κ := by
  -- The ready keys and the vacant one are pairwise different.
  have idle : key ∉ ready := by
    rw [← held.isSome_iff key, vacant]
    simp
  have longer : (key :: ready).Nodup := List.nodup_cons.mpr ⟨idle, held.nodup⟩
  exact longer.length_le_card

/-- A newer item in an occupied slot changes no ready key. -/
theorem replace [DecidableEq κ] (held : HeldBy queue ready slots) {key : κ}
    (occupied : (slots key).isSome)
    (item : α) :
    HeldBy (queue.offer key item) ready (Function.update slots key (some item)) := by
  -- The key waits already, so its place is kept.
  have pending : key ∈ queue.keys := by
    rw [← held.order]
    exact (held.isSome_iff key).mp occupied
  refine ⟨?_, ?_⟩
  · rw [keys, entries_offer_of_mem pending, keys_renewed, held.order, keys]
  · intro other newest
    rw [entries_offer_of_mem pending, List.mem_map]
    by_cases same : other = key
    · -- Whatever waited under the key has become the newer item.
      subst same
      rw [Function.update_self, Option.some.injEq]
      constructor
      · rintro rfl
        obtain ⟨⟨former, older⟩, member, equal⟩ := List.mem_map.mp pending
        exact ⟨(former, older), member, if_pos equal⟩
      · rintro ⟨⟨former, older⟩, member, renewed⟩
        unfold renewEntry at renewed
        split at renewed
        · exact congrArg Prod.snd renewed
        · rename_i different
          exact absurd (congrArg Prod.fst renewed) different
    · -- Under every other key the same item waits.
      rw [Function.update_of_ne same, held.items]
      constructor
      · intro member
        exact ⟨(other, newest), member, if_neg same⟩
      · rintro ⟨⟨former, older⟩, member, renewed⟩
        have kept := fst_renewEntry key item (former, older)
        rw [renewed] at kept
        obtain rfl : other = former := kept
        rw [renewEntry, if_neg same] at renewed
        rwa [← renewed]

/-- An item in a vacant slot makes its key ready behind the others. -/
theorem append [DecidableEq κ] (held : HeldBy queue ready slots) {key : κ}
    (vacant : slots key = none)
    (item : α) :
    HeldBy (queue.offer key item) (ready ++ [key]) (Function.update slots key (some item)) := by
  -- The key does not wait yet.
  have idle : key ∉ queue.keys := by
    rw [← held.order, ← held.isSome_iff key, vacant]
    simp
  refine ⟨?_, ?_⟩
  · rw [keys, entries_offer_of_notMem idle, List.map_append, List.map_singleton, held.order, keys]
  · intro other newest
    rw [entries_offer_of_notMem idle, List.mem_append, List.mem_singleton, Prod.mk.injEq]
    by_cases same : other = key
    · subst same
      have absent : (other, newest) ∉ queue.entries := fun member =>
        idle (List.mem_map.mpr ⟨(other, newest), member, rfl⟩)
      rw [Function.update_self, Option.some.injEq]
      simp [absent, eq_comm]
    · rw [Function.update_of_ne same, held.items]
      simp [same]

/-- The first ready key has the next item in its slot, and leaves the rest behind. -/
theorem take [DecidableEq κ] {key : κ} {others : List κ}
    (held : HeldBy queue (key :: others) slots) :
    ∃ item, slots key = some item ∧ queue.next = some item ∧
      HeldBy queue.rest others (Function.update slots key none) := by
  -- The queue starts with the entry of the first ready key.
  rcases queue with ⟨_ | ⟨⟨first, item⟩, entries⟩, distinct⟩
  · exact nomatch held.order
  · obtain ⟨rfl, rfl⟩ := List.cons.inj held.order
    refine ⟨item, (held.items key item).mpr List.mem_cons_self, rfl, rfl, ?_⟩
    intro other newest
    have absent : key ∉ entries.map Prod.fst := (List.nodup_cons.mp distinct).1
    by_cases same : other = key
    · -- No second item waits under the key taken out.
      subst same
      rw [Function.update_self]
      constructor
      · exact nofun
      · intro member
        exact absurd (List.mem_map.mpr ⟨(other, newest), member, rfl⟩) absent
    · rw [Function.update_of_ne same, held.items]
      simp [rest, same]

/-- Without a ready key nothing waits. -/
theorem next_of_nil (held : HeldBy queue [] slots) : queue.next = none := by
  have nothing : queue.entries = [] := List.map_eq_nil_iff.mp held.order.symm
  rw [next, nothing]
  rfl

end HeldBy

end LatestQueue

end Veloxity.Library
