import Mathlib.Data.List.Basic

/-! Numbered items that may be lost on their way to a reader who counts the gaps it notices. -/

namespace Veloxity.Library

universe u

variable {ν : Type u} [DecidableEq ν] (next : ν → ν)

/-- How often an entry of a list is not followed by the next number. -/
def gaps : List ν → Nat
  | first :: second :: rest => (if second = next first then 0 else 1) + gaps (second :: rest)
  | _ => 0

/-- One more entry in front is followed by a gap at most. -/
theorem gaps_cons_le (first : ν) (entries : List ν) :
    gaps next (first :: entries) ≤ gaps next entries + 1 := by
  -- Only the step to the next entry can be new.
  cases entries with
  | nil => simp [gaps]
  | cons second rest =>
    rw [gaps]
    split <;> omega

/-- An entry in front hides no gap. -/
theorem gaps_le_cons (first : ν) (entries : List ν) :
    gaps next entries ≤ gaps next (first :: entries) := by
  -- The steps between the other entries stay as they are.
  cases entries with
  | nil => simp [gaps]
  | cons second rest =>
    rw [gaps.eq_1]
    omega

/-- Without one of its entries a list has one more gap at most. -/
theorem gaps_without (front : List ν) (entry : ν) (back : List ν) :
    gaps next (front ++ back) ≤ gaps next (front ++ entry :: back) + 1 := by
  -- The gap that opens is between the entry's neighbours, up to which the lists agree.
  induction front with
  | nil => exact Nat.le_succ_of_le (gaps_le_cons next entry back)
  | cons first front ih =>
    cases front with
    | nil =>
      have opened := gaps_cons_le next first back
      have hidden := gaps_le_cons next entry back
      have kept := gaps_le_cons next first (entry :: back)
      simp only [List.cons_append, List.nil_append]
      omega
    | cons second front =>
      simp only [List.cons_append, gaps] at ih ⊢
      omega

/-- The next number behind the last one leaves no gap. -/
theorem gaps_append_next (front : List ν) (last : ν) :
    gaps next (front ++ [last] ++ [next last]) = gaps next (front ++ [last]) := by
  -- The induction is on the numbers in front, which the end does not touch.
  induction front with
  | nil => simp [gaps]
  | cons first front ih =>
    cases front with
    | nil => simp [gaps]
    | cons second front =>
      simp only [List.cons_append, gaps] at ih ⊢
      rw [ih]

/-- The number to be given next, those on their way, the last one read, how many gaps the reader
has counted and how many items were lost. -/
structure SequenceNumbers (ν : Type u) where
  upcoming : ν
  onWay : List ν
  last : Option ν
  counted : Nat
  lost : Nat

namespace SequenceNumbers

/-- A reader that has read a number expects the next one. -/
def surprising (last : Option ν) (number : ν) : Bool :=
  match last with
  | some last => number ≠ next last
  | none => false

/-- What can happen to the numbers and their items. -/
inductive Moves (numbering : SequenceNumbers ν) : SequenceNumbers ν → Prop where
  /-- Items that have no number yet or none any more may be lost. -/
  | rest {lost : Nat} (more : numbering.lost ≤ lost) : Moves numbering { numbering with lost }
  /-- An item is sent with the next number. -/
  | send : Moves numbering { numbering with
      upcoming := next numbering.upcoming, onWay := numbering.onWay ++ [numbering.upcoming] }
  /-- An item is lost with the number it was given. -/
  | skip {lost : Nat} (more : numbering.lost < lost) :
      Moves numbering { numbering with upcoming := next numbering.upcoming, lost }
  /-- An item is lost on its way. -/
  | vanish {number : ν} {onWay : List ν} (first : numbering.onWay = number :: onWay) {lost : Nat}
      (more : numbering.lost < lost) : Moves numbering { numbering with onWay, lost }
  /-- A number is read, and counted if it is not the expected one. -/
  | read {number : ν} {onWay : List ν} (first : numbering.onWay = number :: onWay)
      {counted lost : Nat}
      (counts : counted ≤
        numbering.counted + if surprising next numbering.last number then 1 else 0)
      (more : numbering.lost ≤ lost) :
      Moves numbering { numbering with onWay, last := some number, counted, lost }

/-- The gaps that were noticed, and those still to be, are no more than the items lost. -/
def Explained (numbering : SequenceNumbers ν) : Prop :=
  numbering.counted +
    gaps next (numbering.last.toList ++ numbering.onWay ++ [numbering.upcoming]) ≤ numbering.lost

variable {next} {numbering after : SequenceNumbers ν}

/-- Every gap is explained by an item that was lost. -/
theorem Explained.moves (explained : numbering.Explained next)
    (moved : numbering.Moves next after) : after.Explained next := by
  rcases numbering with ⟨upcoming, onWay, last, counted, lost⟩
  have bound : counted + gaps next (last.toList ++ onWay ++ [upcoming]) ≤ lost := explained
  -- Where a number goes missing, an item is lost.
  cases moved with
  | rest more => exact Nat.le_trans bound more
  | send =>
    show counted + gaps next (last.toList ++ (onWay ++ [upcoming]) ++ [next upcoming]) ≤ lost
    rw [← List.append_assoc, gaps_append_next]
    exact bound
  | skip more =>
    have opened := gaps_without next (last.toList ++ onWay) upcoming [next upcoming]
    rw [show last.toList ++ onWay ++ [upcoming, next upcoming] =
      last.toList ++ onWay ++ [upcoming] ++ [next upcoming] by simp, gaps_append_next] at opened
    refine Nat.le_trans ?_ (show lost + 1 ≤ _ from more)
    show counted + gaps next (last.toList ++ onWay ++ [next upcoming]) ≤ _
    omega
  | @vanish number rest first fewer more =>
    obtain rfl : onWay = number :: rest := first
    have opened := gaps_without next last.toList number (rest ++ [upcoming])
    refine Nat.le_trans ?_ (show lost + 1 ≤ _ from more)
    show counted + gaps next (last.toList ++ rest ++ [upcoming]) ≤ _
    simp only [List.append_assoc, List.cons_append] at bound opened ⊢
    omega
  | @read number rest first noted fewer counts more =>
    obtain rfl : onWay = number :: rest := first
    refine Nat.le_trans
      (show noted + gaps next ([number] ++ rest ++ [upcoming]) ≤ lost from ?_) more
    -- The gap in front of the number that is read has been counted.
    cases last with
    | none => exact Nat.le_trans (Nat.add_le_add_right counts _) bound
    | some previous =>
      simp only [surprising, decide_eq_true_eq] at counts
      simp only [Option.toList_some, List.cons_append, List.nil_append, gaps] at bound ⊢
      by_cases expected : number = next previous <;> simp [expected] at counts bound ⊢ <;> omega

end SequenceNumbers

end Veloxity.Library
