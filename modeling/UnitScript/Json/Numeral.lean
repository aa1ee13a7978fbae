import UnitScript.Json.Basic

/-!
Numbers as they are written. A number has no bound of its own, but it is also held as a double, and
the two ways to get there differ for numbers near the largest double: `overflows` multiplies a word
of digits with a power of ten and rounds at each step, `isInfinite` rounds the exact value once.
-/

namespace UnitScript

namespace Json

def digitValue (c : Char) : Nat := c.toNat - '0'.toNat

def natOfDigits (digits : List Char) : Nat :=
  digits.foldl (fun n d => 10 * n + digitValue d) 0

/-- A number before anything is made of it. The exponent is kept with its mark and sign, and is
empty where there is none; so is the fraction. -/
structure Numeral where
  negative : Bool
  whole : List Char
  fraction : List Char
  exponent : List Char
  deriving DecidableEq

namespace Numeral

def text (n : Numeral) : List Char :=
  (if n.negative then ['-'] else []) ++ n.whole ++
    (if n.fraction.isEmpty then [] else '.' :: n.fraction) ++ n.exponent

def isWhole (n : Numeral) : Bool := n.fraction.isEmpty && n.exponent.isEmpty

def digits (n : Numeral) : List Char := n.whole ++ n.fraction

def power (n : Numeral) : Int :=
  match n.exponent with
  | _ :: '-' :: digits => -(natOfDigits digits : Int)
  | _ :: '+' :: digits => natOfDigits digits
  | _ :: digits => natOfDigits digits
  | [] => 0

def scale (n : Numeral) : Int := n.power - n.fraction.length

def magnitude (n : Numeral) : Nat := natOfDigits n.digits

def mantissa (n : Numeral) : Int := if n.negative then -(n.magnitude : Int) else n.magnitude

end Numeral

/-- The number with 53 significant bits that is closest to `n`, the even one of two. -/
def roundToDouble (n : Nat) : Nat :=
  let shift := n.log2 - 52
  let unit := 1 <<< shift
  let quotient := n / unit
  let rest := n % unit
  let up := unit < 2 * rest || (unit = 2 * rest && quotient % 2 = 1)
  (if up then quotient + 1 else quotient) <<< shift

def doubleLimit : Nat := 1 <<< 1024

def leadingWord (n : Nat) : List Char → Nat × Nat
  | [] => (n, 0)
  | d :: digits =>
    if 10 * n + digitValue d < UInt64.size then leadingWord (10 * n + digitValue d) digits
    else (n, digits.length + 1)

namespace Numeral

def overflows (n : Numeral) : Bool :=
  let (word, dropped) := leadingWord 0 n.digits
  match n.scale + dropped with
  | .ofNat k =>
    word ≠ 0 && (308 < k ||
      doubleLimit ≤ roundToDouble (roundToDouble word * roundToDouble (Nat.pow 10 k)))
  | .negSucc _ => false

def isInfinite (n : Numeral) : Bool :=
  let limit := doubleLimit - 1 <<< 970
  match n.scale with
  | .ofNat k => n.magnitude ≠ 0 && (308 < k || limit ≤ n.magnitude * Nat.pow 10 k)
  | .negSucc k => k < n.digits.length && limit * Nat.pow 10 (k + 1) ≤ n.magnitude

end Numeral

end Json

end UnitScript
