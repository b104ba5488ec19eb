/-!
# Binary floating-point numbers

Numbers of 64 and of 32 bits, held as their bits, so that the payload of a NaN is
kept.  They compare as numbers do: a NaN equals nothing, itself included, and the
two zeros are equal.

## Main definitions

* `Binary64`, `Binary32` — the numbers.
* `Binary64.equals`, `Binary32.equals` — numerical equality, which is not equality of bits.
-/

namespace QueryRouting

/-- A floating-point number of 64 bits. -/
structure Binary64 where
  bits : UInt64
  deriving DecidableEq, Repr

/-- A floating-point number of 32 bits. -/
structure Binary32 where
  bits : UInt32
  deriving DecidableEq, Repr

namespace Binary64

/-- The bits without the sign. -/
def magnitude (x : Binary64) : UInt64 := x.bits &&& 0x7fffffffffffffff

/-- Whether the bits are those of a NaN: the exponent is full and the fraction is not zero. -/
def isNaN (x : Binary64) : Bool := 0x7ff0000000000000 < x.magnitude

/-- Whether two numbers are equal as numbers. -/
def equals (x y : Binary64) : Bool :=
  !x.isNaN && !y.isNaN && (x.bits = y.bits || (x.magnitude = 0 && y.magnitude = 0))

end Binary64

namespace Binary32

/-- The bits without the sign. -/
def magnitude (x : Binary32) : UInt32 := x.bits &&& 0x7fffffff

/-- Whether the bits are those of a NaN: the exponent is full and the fraction is not zero. -/
def isNaN (x : Binary32) : Bool := 0x7f800000 < x.magnitude

/-- Whether two numbers are equal as numbers. -/
def equals (x y : Binary32) : Bool :=
  !x.isNaN && !y.isNaN && (x.bits = y.bits || (x.magnitude = 0 && y.magnitude = 0))

end Binary32

end QueryRouting
