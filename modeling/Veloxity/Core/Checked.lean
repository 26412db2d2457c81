import Veloxity.Core.Machine

/-! Results of machine arithmetic that has to stay within the range of its type. -/

namespace Veloxity

/-- A signed 32-bit result, or none where the operation overflows. -/
def exactI32 (value : Int) : Option Int :=
  if -2147483648 ≤ value ∧ value < 2147483648 then some value else none

/-- A signed 64-bit result, or none where the operation overflows. -/
def exactI64 (value : Int) : Option Int :=
  if -9223372036854775808 ≤ value ∧ value < 9223372036854775808 then some value else none

/-- An unsigned 16-bit result, or none where the operation overflows. -/
def exactU16 (value : Nat) : Option Nat := if value < 65536 then some value else none

/-- An unsigned 32-bit result, or none where the operation overflows. -/
def exactU32 (value : Nat) : Option Nat := if value < wordSize then some value else none

/-- An unsigned 64-bit result, or none where the operation overflows. -/
def exactU64 (value : Nat) : Option Nat := if value < longWordSize then some value else none

/-- A quotient, or none where the divisor is zero. -/
def exactDiv (dividend divisor : Nat) : Option Nat :=
  if divisor = 0 then none else some (dividend / divisor)

/-- A remainder, or none where the divisor is zero. -/
def exactMod (dividend divisor : Nat) : Option Nat :=
  if divisor = 0 then none else some (dividend % divisor)

/-- A signed 32-bit result in range is that value. -/
theorem exactI32_eq_some {value : Int} (low : -2147483648 ≤ value) (high : value < 2147483648) :
    exactI32 value = some value := if_pos ⟨low, high⟩

/-- A signed 64-bit result in range is that value. -/
theorem exactI64_eq_some {value : Int} (low : -9223372036854775808 ≤ value)
    (high : value < 9223372036854775808) : exactI64 value = some value := if_pos ⟨low, high⟩

/-- An unsigned 32-bit result in range is that value. -/
theorem exactU32_eq_some {value : Nat} (fits : value < 4294967296) : exactU32 value = some value :=
  if_pos fits

/-- An unsigned 64-bit result in range is that value. -/
theorem exactU64_eq_some {value : Nat} (fits : value < 18446744073709551616) :
    exactU64 value = some value := if_pos fits

/-- An unsigned 64-bit result out of range is none. -/
theorem exactU64_eq_none {value : Nat} (beyond : ¬ value < 18446744073709551616) :
    exactU64 value = none := if_neg beyond

/-- A quotient by a divisor other than zero is that quotient. -/
theorem exactDiv_eq_some {divisor : Nat} (nonzero : divisor ≠ 0) (dividend : Nat) :
    exactDiv dividend divisor = some (dividend / divisor) := if_neg nonzero

/-- A remainder by a divisor other than zero is that remainder. -/
theorem exactMod_eq_some {divisor : Nat} (nonzero : divisor ≠ 0) (dividend : Nat) :
    exactMod dividend divisor = some (dividend % divisor) := if_neg nonzero

section Binds

variable {α : Type} {value : Int} (next : Int → Option α)

/-- A computation goes on with a signed 32-bit result in range. -/
theorem exactI32_bind (low : -2147483648 ≤ value) (high : value < 2147483648) :
    (exactI32 value >>= next) = next value := by
  rw [exactI32_eq_some low high]
  rfl

/-- A computation goes on with a signed 64-bit result in range. -/
theorem exactI64_bind (low : -9223372036854775808 ≤ value)
    (high : value < 9223372036854775808) : (exactI64 value >>= next) = next value := by
  rw [exactI64_eq_some low high]
  rfl

end Binds

end Veloxity
