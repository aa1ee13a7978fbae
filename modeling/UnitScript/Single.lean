/-!
Single-precision numbers, held as their 32 bits so that the sign of an undefined result is not lost:
`copySign` can see it. An operation on an undefined operand hands that operand on, the left one
first; one that is undefined by itself gives `undefined`, whose sign bit is set.
-/

namespace UnitScript

structure Single where
  bits : UInt32
  deriving DecidableEq, Inhabited

namespace Single

def signMask : UInt32 := 0x80000000

def undefined : Single := ⟨0xffc00000⟩

def zero : Single := ⟨0⟩

def isNaN (x : Single) : Bool :=
  x.bits &&& 0x7fffffff > 0x7f800000

def quiet (x : Single) : Single := ⟨x.bits ||| 0x00400000⟩

def toFloat (x : Single) : Float32 := Float32.ofBits x.bits

def ofFloat (r : Float32) : Single :=
  if r.isNaN then undefined else ⟨r.toBits⟩

def arith (op : Float32 → Float32 → Float32) (x y : Single) : Single :=
  if x.isNaN then x.quiet
  else if y.isNaN then y.quiet
  else ofFloat (op x.toFloat y.toFloat)

instance : Add Single := ⟨arith (· + ·)⟩

instance : Sub Single := ⟨arith (· - ·)⟩

instance : Mul Single := ⟨arith (· * ·)⟩

instance : Div Single := ⟨arith (· / ·)⟩

def le (x y : Single) : Bool := x.toFloat ≤ y.toFloat

def lt (x y : Single) : Bool := x.toFloat < y.toFloat

def isZero (x : Single) : Bool := x.bits &&& 0x7fffffff = 0

def neg (x : Single) : Single := ⟨x.bits ^^^ signMask⟩

def abs (x : Single) : Single := ⟨x.bits &&& 0x7fffffff⟩

def copySign (x s : Single) : Single := ⟨x.bits &&& 0x7fffffff ||| s.bits &&& signMask⟩

def ofInt32 (n : Int32) : Single := ofFloat n.toFloat32

/-- The nearest integer, a tie going away from zero; out of range it is the nearest bound, and an
undefined number gives zero. -/
def roundToInt32 (x : Single) : Int32 :=
  if x.isNaN then 0 else x.toFloat.round.toInt32

def decode (x : Single) : Nat × Nat :=
  let exponent := ((x.bits >>> 23) &&& 0xff).toNat
  let fraction := (x.bits &&& 0x7fffff).toNat
  if exponent = 0 then (fraction, 0) else (fraction + 0x800000, exponent - 1)

def encode (m e : Nat) : Single :=
  if m = 0 then zero
  else
    let shift := min (23 - Nat.log2 m) e
    let m := m <<< shift
    if m < 0x800000 then ⟨UInt32.ofNat m⟩
    else ⟨UInt32.ofNat ((e - shift + 1) * 0x800000 + (m - 0x800000))⟩

def isInfinite (x : Single) : Bool := x.bits &&& 0x7fffffff = 0x7f800000

/-- The exact remainder of the division that rounds toward zero; it has the sign of `x`. -/
def rem (x y : Single) : Single :=
  if x.isNaN then x.quiet
  else if y.isNaN then y.quiet
  else if x.isInfinite || y.isZero then undefined
  else if y.isInfinite then x
  else
    let (m, e) := x.decode
    let (n, f) := y.decode
    let low := min e f
    copySign (encode ((m <<< (e - low)) % (n <<< (f - low))) low) x

end Single

end UnitScript
