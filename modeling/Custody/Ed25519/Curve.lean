import Custody.Bytes

/-!
# The twisted Edwards curve of Ed25519

Points of `-x² + y² = 1 + d x² y²` over the integers modulo `2²⁵⁵ - 19`, in
extended coordinates, with the addition law that is complete for this curve. A
point is written as its `y` in little-endian order with the parity of `x` as the
top bit. Reading a point takes `y` modulo the field size and, where `x` is zero,
ignores the parity bit.
-/

namespace Custody.Ed25519

-- Powers are those of the core library, whatever other instances are in scope.
attribute [local instance (2000)] instPowNat

/-- The size of the field. -/
def fieldSize : Nat := 2 ^ (255 : Nat) - 19

instance : @NeZero Nat Zero.ofOfNat0 fieldSize := ⟨by decide⟩

/-- The field elements. -/
abbrev Field := Fin fieldSize

/-- The order of the base point. -/
def groupOrder : Nat := 2 ^ (252 : Nat) + 27742317777372353535851937790883648493

/-- The product of the copies of `x` that the bits count, most significant bit first, under an
operation with neutral element `one`. -/
def doubleAndAdd {α : Type} (op : α → α → α) (one x : α) (bits : List Bool) : α :=
  bits.foldl (fun acc bit => if bit then op (op acc acc) x else op acc acc) one

/-- The `width` lowest bits of a number, most significant first. -/
def bitsOf (width n : Nat) : List Bool := (List.range width).reverse.map n.testBit

namespace Field

/-- The power of a field element to an exponent below `2 ^ 256`. -/
def pow (x : Field) (exponent : Nat) : Field := doubleAndAdd (· * ·) 1 x (bitsOf 256 exponent)

/-- The inverse of a field element, and zero for zero. -/
def inv (x : Field) : Field := pow x (fieldSize - 2)

/-- Whether the least number that stands for the element is odd. -/
def isOdd (x : Field) : Bool := x.val % 2 == 1

end Field

/-- The coefficient of the curve. -/
def curveD : Field :=
  Fin.ofNat _ 37095705934669439343138083508754565189542113879843219016388785533085940283555

/-- A square root of minus one. -/
def sqrtMinusOne : Field :=
  Fin.ofNat _ 19681161376707505956807079304988542015446066515923890162744021073123829784752

/-- A point in extended coordinates: `x` and `y` are the quotients of the first two by `z`, and
`t` is their product. -/
structure Point where
  x : Field
  y : Field
  z : Field
  t : Field

namespace Point

/-- The neutral point. -/
def zero : Point := ⟨0, 1, 1, 0⟩

/-- The point with these coordinates. -/
def affine (x y : Field) : Point := ⟨x, y, 1, x * y⟩

/-- The sum of two points, which may be equal. -/
def add (p q : Point) : Point :=
  let a := (p.y - p.x) * (q.y - q.x)
  let b := (p.y + p.x) * (q.y + q.x)
  let c := p.t * (curveD + curveD) * q.t
  let d := (p.z + p.z) * q.z
  ⟨(b - a) * (d - c), (d + c) * (b + a), (d - c) * (d + c), (b - a) * (b + a)⟩

/-- The opposite point. -/
def neg (p : Point) : Point := ⟨0 - p.x, p.y, p.z, 0 - p.t⟩

/-- The multiple of a point by a scalar below `2 ^ 256`. -/
def scale (scalar : Nat) (p : Point) : Point := doubleAndAdd add zero p (bitsOf 256 scalar)

/-- The thirty-two bytes of a point. -/
def encode (p : Point) : Bytes :=
  let inverse := Field.inv p.z
  let parity := if Field.isOdd (p.x * inverse) then 2 ^ (255 : Nat) else 0
  LittleEndian.ofNat 32 ((p.y * inverse).val + parity)

/-- An `x` that the curve pairs with `y`, if there is one. -/
def recoverX (y : Field) : Option Field :=
  let u := y * y - 1
  let w := curveD * y * y + 1
  let cube := w * w * w
  let root := u * cube * Field.pow (u * cube * cube * w) ((fieldSize - 5) / 8)
  if w * root * root = u then some root
  else if w * root * root = 0 - u then some (root * sqrtMinusOne)
  else none

/-- Reads a point from thirty-two bytes, or refuses a `y` that is on no point. -/
def decode? (bytes : Bytes) : Option Point := do
  let n := LittleEndian.toNat bytes
  let y : Field := Fin.ofNat _ (n % 2 ^ (255 : Nat))
  let x ← recoverX y
  pure (affine (if Field.isOdd x == n.testBit 255 then x else 0 - x) y)

/-- The base point. -/
def base : Point :=
  affine
    (Fin.ofNat _ 15112221349535400772501151409588531511454012693041857206046113283949847762202)
    (Fin.ofNat _ 46316835694926478169428394003475163141307993866256225615783033603165251855960)

end Point

end Custody.Ed25519
