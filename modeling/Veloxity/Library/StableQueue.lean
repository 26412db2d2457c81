import Mathlib.Data.List.Perm.Basic
import Mathlib.Order.Lattice
import Mathlib.Order.OrderDual

/-! Priority queues that keep the order of arrival among items of one priority. -/

namespace Veloxity.Library

universe u v

variable {α : Type u} {β : Type v} [LinearOrder β]

/-- An item stands first among those of the highest key, between the items before and after it. -/
structure FirstBest (key : α → β) (before : List α) (item : α) (after : List α) : Prop where
  earlier : ∀ other ∈ before, key other < key item
  later : ∀ other ∈ after, key other ≤ key item

/-- Take out the first of the items with the highest key. -/
def takeFirstBest (key : α → β) : List α → Option (α × List α)
  | [] => none
  | item :: rest =>
    match takeFirstBest key rest with
    | none => some (item, [])
    | some (best, others) =>
      if key item < key best then some (best, item :: others) else some (item, rest)

/-- Every nonempty list yields an item. -/
theorem takeFirstBest_eq_none {key : α → β} {items : List α} :
    takeFirstBest key items = none ↔ items = [] := by
  -- Whichever branch is taken, a nonempty list yields something.
  cases items with
  | nil => simp [takeFirstBest]
  | cons item rest =>
    simp only [takeFirstBest]
    split
    · simp
    · split <;> simp

/-- What is taken out stood first among the best, and the others keep their order. -/
theorem takeFirstBest_spec {key : α → β} {items others : List α} {best : α}
    (taken : takeFirstBest key items = some (best, others)) :
    ∃ before after, items = before ++ best :: after ∧ others = before ++ after ∧
      FirstBest key before best after := by
  -- The induction is on the items; the head wins unless the rest holds a higher key.
  induction items generalizing best others with
  | nil => cases taken
  | cons item rest ih =>
    simp only [takeFirstBest] at taken
    cases deeper : takeFirstBest key rest with
    | none =>
      rw [deeper] at taken
      cases taken
      rw [takeFirstBest_eq_none] at deeper
      subst deeper
      exact ⟨[], [], rfl, rfl, ⟨by simp, by simp⟩⟩
    | some found =>
      rcases found with ⟨champion, left⟩
      simp only [deeper] at taken
      obtain ⟨before, after, split, remain, first⟩ := ih deeper
      -- The rest wins only with a strictly higher key, so that equal ones keep their order.
      by_cases higher : key item < key champion
      · rw [if_pos higher] at taken
        cases taken
        refine ⟨item :: before, after, by rw [split]; rfl, by rw [remain]; rfl, ?_, first.later⟩
        intro other member
        rcases List.mem_cons.mp member with rfl | member
        · exact higher
        · exact first.earlier other member
      · rw [if_neg higher] at taken
        cases taken
        refine ⟨[], rest, rfl, rfl, by simp, ?_⟩
        intro other member
        have least := not_lt.mp higher
        rw [split, List.mem_append, List.mem_cons] at member
        rcases member with member | rfl | member
        · exact (first.earlier other member).le.trans least
        · exact least
        · exact (first.later other member).trans least

/-- The position of the first best item is unique, so it is the one taken out. -/
theorem takeFirstBest_of_firstBest {key : α → β} {before after : List α} {best : α}
    (first : FirstBest key before best after) :
    takeFirstBest key (before ++ best :: after) = some (best, before ++ after) := by
  -- The induction is on the items before the best one.
  induction before with
  | nil =>
    rw [List.nil_append, List.nil_append, takeFirstBest]
    cases deeper : takeFirstBest key after with
    | none => rw [takeFirstBest_eq_none.mp deeper]
    | some found =>
      rcases found with ⟨champion, left⟩
      obtain ⟨ahead, behind, split, _, _⟩ := takeFirstBest_spec deeper
      have member : champion ∈ after := by
        rw [split]
        simp
      simp only [if_neg (not_lt.mpr (first.later champion member))]
  | cons head before ih =>
    have deeper := ih ⟨fun other member => first.earlier other (List.mem_cons_of_mem _ member),
      first.later⟩
    have higher := first.earlier head List.mem_cons_self
    rw [List.cons_append, takeFirstBest, deeper]
    simp only [if_pos higher, List.cons_append]

/-- Two lists hold the same items, those of each key in the same order. -/
def SameOrder (key : α → β) (items others : List α) : Prop :=
  ∀ level, items.filter (key · = level) = others.filter (key · = level)

namespace SameOrder

variable {key : α → β} {items others : List α}

/-- A list is in the order of itself. -/
theorem refl (key : α → β) (items : List α) : SameOrder key items items := fun _ => rfl

/-- Lists in the same order have the same members. -/
theorem mem_iff (same : SameOrder key items others) (item : α) : item ∈ items ↔ item ∈ others := by
  -- An item is found among those of its own key.
  have found := congrArg (item ∈ ·) (same (key item))
  simpa using found

/-- Lists in the same order hold every item equally often. -/
theorem perm (same : SameOrder key items others) : items.Perm others := by
  classical
  apply List.perm_iff_count.mpr
  intro item
  -- The copies of an item all have its key.
  have counted := congrArg (List.count item) (same (key item))
  rw [List.count_filter (by simp), List.count_filter (by simp)] at counted
  exact counted

/-- The order is the same whichever way the keys are compared. -/
theorem dual (same : SameOrder key items others) :
    SameOrder (fun item => OrderDual.toDual (key item)) items others :=
  -- A dual key is the key itself.
  fun level => same (OrderDual.ofDual level)

/-- Appending the same item keeps the order. -/
theorem append (same : SameOrder key items others) (item : α) :
    SameOrder key (items ++ [item]) (others ++ [item]) := by
  intro level
  rw [List.filter_append, List.filter_append, same level]

/-- Lists in the same order have the same first best item, and agree without it. -/
theorem firstBest {before after : List α} {best : α}
    (same : SameOrder key (before ++ best :: after) others)
    (first : FirstBest key before best after) :
    ∃ ahead behind, others = ahead ++ best :: behind ∧ FirstBest key ahead best behind ∧
      SameOrder key (before ++ after) (ahead ++ behind) := by
  -- Nothing before the best item has its key, so it leads the items of that key.
  have none : before.filter (key · = key best) = [] := by
    apply List.filter_eq_nil_iff.mpr
    intro other member
    have below := first.earlier other member
    simpa using below.ne
  have leads := same (key best)
  rw [List.filter_append, none, List.nil_append, List.filter_cons_of_pos (by simp)] at leads
  obtain ⟨ahead, behind, split, others, _, rest⟩ := List.filter_eq_cons_iff.mp leads.symm
  have highest : ∀ other ∈ ahead ++ best :: behind, key other ≤ key best := by
    intro other member
    rw [← split, ← same.mem_iff, List.mem_append, List.mem_cons] at member
    rcases member with member | rfl | member
    · exact (first.earlier other member).le
    · exact le_refl _
    · exact first.later other member
  refine ⟨ahead, behind, split, ⟨?_, ?_⟩, ?_⟩
  · intro other member
    have distinct := others other member
    apply lt_of_le_of_ne (highest other (by simp [member]))
    simpa using distinct
  · intro other member
    exact highest other (by simp [member])
  · intro level
    have whole := same level
    rw [split, List.filter_append, List.filter_append] at whole
    rw [List.filter_append, List.filter_append]
    by_cases level_eq : key best = level
    -- On the best item's own key both lists lose their head.
    · subst level_eq
      have nothing : ahead.filter (key · = key best) = [] := by
        apply List.filter_eq_nil_iff.mpr
        exact others
      rw [none, nothing, List.nil_append, List.nil_append, rest]
    · rw [List.filter_cons_of_neg (by simpa using level_eq),
        List.filter_cons_of_neg (by simpa using level_eq)] at whole
      exact whole

end SameOrder

/-- Moving the last item forward keeps the order if it passes none of its own key. -/
theorem sameOrder_move_last {key : α → β} {before between : List α} {last : α}
    (unmatched : ∀ other ∈ between, key other ≠ key last) :
    SameOrder key (before ++ last :: between) (before ++ (between ++ [last])) := by
  intro level
  rw [List.filter_append, List.filter_append, List.filter_append, List.append_cancel_left_eq]
  -- Only the items of the last one's key can be passed, and there are none between.
  by_cases own : key last = level
  · have none : between.filter (key · = level) = [] := by
      apply List.filter_eq_nil_iff.mpr
      intro other member
      have distinct := unmatched other member
      rw [own] at distinct
      simpa using distinct
    rw [List.filter_cons_of_pos (by simpa using own), none, List.nil_append,
      List.filter_cons_of_pos (by simpa using own), List.filter_nil]
  · rw [List.filter_cons_of_neg (by simpa using own), List.filter_cons_of_neg (by simpa using own),
      List.filter_nil, List.append_nil]

/-- A push into a stable queue of bounded capacity: what was accepted and what is held then, in
order of arrival. A full queue gives up the first of its lowest items for a higher one. -/
def pushStable (key : α → β) (capacity : Nat) (held : List α) (item : α) : Bool × List α :=
  if held.length < capacity then (true, held ++ [item])
  else
    match takeFirstBest (fun other => OrderDual.toDual (key other)) held with
    | none => (false, held)
    | some (lowest, others) =>
      if key lowest < key item then (true, others ++ [item]) else (false, held)

end Veloxity.Library
