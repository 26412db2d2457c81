import Mathlib.Logic.Function.Basic

/-! Writing a list of entries into a function leaves at each key what its last entry says. -/

namespace Veloxity.Library

universe u v w

variable {ε : Type u} {κ : Type v} {β : Type w} [DecidableEq κ]

/-- The last entry under a key, or else an earlier one. -/
def lastWriteFrom (key : ε → κ) (wanted : κ) (earlier : Option ε) (entries : List ε) : Option ε :=
  entries.foldl (fun last entry => if key entry = wanted then some entry else last) earlier

/-- The last entry under a key. -/
def lastWrite (key : ε → κ) (wanted : κ) (entries : List ε) : Option ε :=
  lastWriteFrom key wanted none entries

@[simp] theorem lastWriteFrom_nil (key : ε → κ) (wanted : κ) (earlier : Option ε) :
    lastWriteFrom key wanted earlier [] = earlier := rfl

@[simp] theorem lastWriteFrom_cons (key : ε → κ) (wanted : κ) (earlier : Option ε) (entry : ε)
    (rest : List ε) : lastWriteFrom key wanted earlier (entry :: rest) =
      lastWriteFrom key wanted (if key entry = wanted then some entry else earlier) rest := rfl

/-- Without an earlier entry there is a last one exactly when some entry has the key. -/
theorem lastWriteFrom_eq_none_iff {key : ε → κ} {wanted : κ} {earlier : Option ε}
    {entries : List ε} :
    lastWriteFrom key wanted earlier entries = none ↔
      earlier = none ∧ ∀ entry ∈ entries, key entry ≠ wanted := by
  induction entries generalizing earlier with
  | nil => simp [lastWriteFrom]
  | cons entry rest ih =>
    -- The head replaces what came earlier if it has the key.
    rw [lastWriteFrom_cons, ih]
    by_cases same : key entry = wanted
    · simp [same]
    · simp [same]

/-- There is no last entry under a key exactly when no entry has it. -/
theorem lastWrite_eq_none_iff {key : ε → κ} {wanted : κ} {entries : List ε} :
    lastWrite key wanted entries = none ↔ ∀ entry ∈ entries, key entry ≠ wanted := by
  rw [lastWrite, lastWriteFrom_eq_none_iff, eq_self_iff_true, true_and]

/-- After a list of writes a key holds the value of its last entry, or what it held before. -/
theorem foldl_update_apply (key : ε → κ) (value : ε → β) (start : κ → β) (entries : List ε)
    (wanted : κ) :
    entries.foldl (fun held entry => Function.update held (key entry) (value entry)) start wanted =
      (lastWrite key wanted entries).elim (start wanted) value := by
  have general (held : κ → β) (earlier : Option ε)
      (now : held wanted = earlier.elim (start wanted) value) :
      entries.foldl (fun held entry => Function.update held (key entry) (value entry)) held wanted =
        (lastWriteFrom key wanted earlier entries).elim (start wanted) value := by
    induction entries generalizing held earlier with
    | nil => exact now
    | cons entry rest ih =>
      rw [List.foldl_cons, lastWriteFrom_cons]
      apply ih
      -- A write under the key is the last one so far, and any other leaves it alone.
      by_cases same : key entry = wanted
      · rw [if_pos same, ← same, Function.update_self]
        rfl
      · rw [if_neg same, Function.update_of_ne (Ne.symm same), now]
  exact general start none rfl

end Veloxity.Library
