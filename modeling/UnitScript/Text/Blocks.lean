namespace UnitScript

namespace Text

def covers : List (Nat × Nat) → Nat → Bool
  | [], _ => false
  | (first, last) :: blocks, n => first ≤ n && (n ≤ last || covers blocks n)

end Text

end UnitScript
