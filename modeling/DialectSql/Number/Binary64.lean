/-!
# Binary floating-point numbers

A 64-bit floating-point number is kept as its bits, so that equal numbers are equal values and
nothing is rounded on the way. A finite one denotes `(-1)^s · significand · 2^exponent`. A 32-bit
number is widened exactly; a signalling not-a-number becomes a quiet one and keeps its payload.
-/

set_option autoImplicit false

namespace DialectSql

/-- A 64-bit binary floating-point number, given by its interchange bits. -/
structure Binary64 where
  bits : UInt64
deriving DecidableEq, Repr

/-- A 32-bit binary floating-point number, given by its interchange bits. -/
structure Binary32 where
  bits : UInt32
deriving DecidableEq, Repr

namespace Binary64

/-- Whether the sign bit is set. -/
def isNegative (x : Binary64) : Bool := x.bits >>> 63 == 1

/-- The eleven bits after the sign. -/
def exponentField (x : Binary64) : Nat := (x.bits >>> 52 &&& 0x7ff).toNat

/-- The last fifty-two bits. -/
def fractionField (x : Binary64) : Nat := (x.bits &&& 0xfffffffffffff).toNat

/-- Neither an infinity nor a not-a-number. -/
def isFinite (x : Binary64) : Bool := x.exponentField != 2047

/-- Not a number at all. -/
def isNaN (x : Binary64) : Bool := x.exponentField == 2047 && x.fractionField != 0

/-- The leading bit of a normal significand, which is not among the bits of the number. -/
def hiddenBit : Nat := 0x10000000000000

/-- The significand of a finite number as an integer, with the leading bit of a normal one. -/
def significand (x : Binary64) : Nat :=
  if x.exponentField = 0 then x.fractionField else x.fractionField + hiddenBit

/-- The power of two by which the integer significand of a finite number is scaled. -/
def exponent (x : Binary64) : Int :=
  (if x.exponentField = 0 then 1 else (x.exponentField : Int)) - 1075

/-- The number with the given sign and fields. -/
def ofFields (negative : Bool) (exponentField fractionField : Nat) : Binary64 :=
  ⟨negative.toUInt64 <<< 63 ||| UInt64.ofNat exponentField <<< 52 ||| UInt64.ofNat fractionField⟩

end Binary64

/-- The number of twice the width with the same value. A subnormal number becomes a normal one. A
not-a-number keeps its sign and payload and is made quiet. -/
def Binary32.toBinary64 (x : Binary32) : Binary64 :=
  let negative := x.bits >>> 31 == 1
  let e := (x.bits >>> 23 &&& 0xff).toNat
  let f := (x.bits &&& 0x7fffff).toNat
  if e = 255 then
    .ofFields negative 2047 (if f = 0 then 0 else (f ||| 0x400000) <<< 29)
  else if e = 0 then
    if f = 0 then .ofFields negative 0 0
    else .ofFields negative (f.log2 + 874) ((f - 1 <<< f.log2) <<< (52 - f.log2))
  else .ofFields negative (e + 896) (f <<< 29)

end DialectSql
