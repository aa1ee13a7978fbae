/-!
Uniform draws from an inclusive interval, out of any supply of 32-bit words. A word is scaled to the
interval by one multiplication; where the part that is cut off may have lost a carry, a second word
decides it.
-/

universe u

namespace UnitScript

namespace Random

variable {σ : Type u}

def widen (x y : UInt32) : UInt32 × UInt32 :=
  let p := x.toUInt64 * y.toUInt64
  ((p >>> 32).toUInt32, p.toUInt32)

def below (next : σ → UInt32 × σ) (range : UInt32) (s : σ) : UInt32 × σ :=
  let (word, s) := next s
  let (high, low) := widen word range
  if low > -range then
    let (word, s) := next s
    let carry := (widen word range).1
    (if low.toNat + carry.toNat ≥ 0x100000000 then high + 1 else high, s)
  else (high, s)

/-- A value between the two bounds, which may come in either order. When they leave out no value at
all, the word itself is the value. -/
def uniform (next : σ → UInt32 × σ) (a b : Int32) (s : σ) : Int32 × σ :=
  let low := if a ≤ b then a else b
  let high := if a ≤ b then b else a
  let range := (high - low + 1).toUInt32
  if range = 0 then
    let (word, s) := next s
    (word.toInt32, s)
  else
    let (offset, s) := below next range s
    (low + offset.toInt32, s)

end Random

end UnitScript
