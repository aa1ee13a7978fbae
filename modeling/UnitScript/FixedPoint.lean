import UnitScript.Single

/-!
Fixed-point conventions of the operand stack: a length counts 65536 to the world unit, an angle
65536 to the full turn.
-/

namespace UnitScript

namespace Single

def pi : Single := ⟨0x40490fdb⟩

def tau : Single := ⟨0x40c90fdb⟩

end Single

namespace FixedPoint

def scale : Single := ⟨0x47800000⟩

def toLength (n : Int32) : Single := .ofInt32 n / scale

def ofLength (x : Single) : Int32 := (x * scale).roundToInt32

def toAngle (n : Int32) : Single := .ofInt32 n * .tau / scale

def ofAngle (radians : Single) : Int32 := (radians * scale / .tau).roundToInt32

end FixedPoint

end UnitScript
