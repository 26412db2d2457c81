import Mathlib.Data.Int.Init

/-! Casts and saturating steps of the machine integers the firmware is written in. -/

namespace Veloxity

/-- Number of values of a 32-bit machine word. -/
abbrev wordSize : Nat := 4294967296

/-- A signed integer cast to an unsigned 32-bit word. -/
def asU32 (value : Int) : Nat := (value % wordSize).toNat

/-- A signed integer cast to an unsigned 16-bit word. -/
def asU16 (value : Int) : Nat := (value % 65536).toNat

/-- A clock reading truncated to 32 bits. -/
def truncU32 (value : Nat) : Nat := value % wordSize

/-- Add 32-bit words, stopping at the largest one. -/
def saturatingAddU32 (left right : Nat) : Nat := min (left + right) (wordSize - 1)

/-- Add 32-bit words, wrapping around at the largest one. -/
def wrappingAddU32 (left right : Nat) : Nat := (left + right) % wordSize

/-- Number of values of a 64-bit machine word. -/
abbrev longWordSize : Nat := 18446744073709551616

/-- A signed integer cast to an unsigned 64-bit word. -/
def asU64 (value : Int) : Nat := (value % longWordSize).toNat

/-- An unsigned 64-bit word read as a signed integer. -/
def asI64 (value : Nat) : Int :=
  if value % longWordSize < longWordSize / 2 then (value % longWordSize : Nat)
  else (value % longWordSize : Nat) - (longWordSize : Nat)

/-- Add 64-bit words, stopping at the largest one. -/
def saturatingAddU64 (left right : Nat) : Nat := min (left + right) (longWordSize - 1)

/-- Add 64-bit words, wrapping around at the largest one. -/
def wrappingAddU64 (left right : Nat) : Nat := (left + right) % longWordSize

/-- Multiply 64-bit words, stopping at the largest one. -/
def saturatingMulU64 (left right : Nat) : Nat := min (left * right) (longWordSize - 1)

end Veloxity
