import UnitScript.Json.Numeral

/-!
Reading text in which values are written as in JSON. Each reader takes what is left of the text and
gives its value with what is left after it. What the dialects of this writing do not share stands in
`Dialect`; `Dialect.json` is JSON itself. The fuel of `value?` bounds the number of values and so is
never more than the length of the text.
-/

namespace UnitScript

namespace Json

def isBlank (c : Char) : Bool :=
  c = ' ' || c = '\t' || c = '\n' || c = '\r'

def skipBlank (text : List Char) : List Char :=
  text.dropWhile isBlank

def hexDigit? (c : Char) : Option Nat :=
  if '0' ≤ c ∧ c ≤ '9' then some (c.toNat - '0'.toNat)
  else if 'a' ≤ c ∧ c ≤ 'f' then some (c.toNat - 'a'.toNat + 10)
  else if 'A' ≤ c ∧ c ≤ 'F' then some (c.toNat - 'A'.toNat + 10)
  else none

def hexWord? (a b c d : Char) : Option Nat := do
  return ((← hexDigit? a) * 16 + (← hexDigit? b)) * 256 + (← hexDigit? c) * 16 + (← hexDigit? d)

def isHighSurrogate (n : Nat) : Bool := 0xD800 ≤ n && n < 0xDC00

def isLowSurrogate (n : Nat) : Bool := 0xDC00 ≤ n && n < 0xE000

def escape? : Char → Option Char
  | '"' => some '"'
  | '\\' => some '\\'
  | '/' => some '/'
  | 'b' => some '\x08'
  | 'f' => some '\x0c'
  | 'n' => some '\n'
  | 'r' => some '\r'
  | 't' => some '\t'
  | _ => none

def stringTail : List Char → Option (List Char × List Char)
  | [] => none
  | '"' :: rest => some ([], rest)
  | '\\' :: 'u' :: a :: b :: c :: d :: '\\' :: 'u' :: e :: f :: g :: h :: rest => do
    let first ← hexWord? a b c d
    let second ← hexWord? e f g h
    if isHighSurrogate first then
      if isLowSurrogate second then
        let (tail, left) ← stringTail rest
        return (Char.ofNat (0x10000 + (first - 0xD800) * 0x400 + (second - 0xDC00)) :: tail, left)
      else none
    else if isLowSurrogate first then none
    else
      let (tail, left) ← stringTail ('\\' :: 'u' :: e :: f :: g :: h :: rest)
      return (Char.ofNat first :: tail, left)
  | '\\' :: 'u' :: a :: b :: c :: d :: rest => do
    let word ← hexWord? a b c d
    if isHighSurrogate word || isLowSurrogate word then none
    else
      let (tail, left) ← stringTail rest
      return (Char.ofNat word :: tail, left)
  | '\\' :: c :: rest => do
    let named ← escape? c
    let (tail, left) ← stringTail rest
    return (named :: tail, left)
  | c :: rest =>
    if c = '\\' || c.toNat < 0x20 then none
    else do
      let (tail, left) ← stringTail rest
      return (c :: tail, left)

def fraction? : List Char → Option (List Char × List Char)
  | '.' :: rest =>
    match rest.span Char.isDigit with
    | ([], _) => none
    | (digits, left) => some (digits, left)
  | rest => some ([], rest)

def exponentDigits? (mark text : List Char) : Option (List Char × List Char) :=
  match text.span Char.isDigit with
  | ([], _) => none
  | (digits, left) => some (mark ++ digits, left)

def exponent? : List Char → Option (List Char × List Char)
  | [] => some ([], [])
  | c :: rest =>
    if c = 'e' || c = 'E' then
      match rest with
      | '+' :: digits => exponentDigits? [c, '+'] digits
      | '-' :: digits => exponentDigits? [c, '-'] digits
      | digits => exponentDigits? [c] digits
    else some ([], c :: rest)

def isWholePart : List Char → Bool
  | [] => false
  | ['0'] => true
  | c :: _ => c ≠ '0'

def unsigned? (negative : Bool) (text : List Char) : Option (Numeral × List Char) := do
  let (whole, rest) := text.span Char.isDigit
  guard (isWholePart whole)
  let (fraction, rest) ← fraction? rest
  let (exponent, rest) ← exponent? rest
  return ({ negative, whole, fraction, exponent }, rest)

def numeral? : List Char → Option (Numeral × List Char)
  | '-' :: rest => unsigned? true rest
  | rest => unsigned? false rest

structure Dialect where
  depth : Nat
  string? : List Char → Option (List Char × List Char)
  key? : List Char → Option (List Char × List Char)
  number? : Numeral → Option Json
  /-- What an object with these members, in the order they are written, comes to. Whether it stands
  inside another value is said first. -/
  object? : Bool → List (String × Json) → Option Json

def keyTail (text : List Char) : Option (List Char × List Char) := do
  let (key, rest) ← stringTail text
  match skipBlank rest with
  | ':' :: rest => return (key, rest)
  | _ => none

/-- A number has to have a double next to it. Negative zero has no whole number to stand for it. -/
def ofNumeral? (n : Numeral) : Option Json :=
  if n.overflows then none
  else if n.isWhole && !(n.negative && n.magnitude = 0) then some (.int n.mantissa)
  else some (.decimal n.mantissa n.scale)

def Dialect.json : Dialect where
  depth := 127
  string? := stringTail
  key? := keyTail
  number? := ofNumeral?
  object? _ members := some (ofMembers members)

mutual

def value? (d : Dialect) : Nat → Nat → List Char → Option (Json × List Char)
  | 0, _, _ => none
  | fuel + 1, depth, text =>
    match skipBlank text with
    | 'n' :: 'u' :: 'l' :: 'l' :: rest => some (.null, rest)
    | 't' :: 'r' :: 'u' :: 'e' :: rest => some (.bool true, rest)
    | 'f' :: 'a' :: 'l' :: 's' :: 'e' :: rest => some (.bool false, rest)
    | '"' :: rest => do
      let (chars, rest) ← d.string? rest
      return (.str (String.ofList chars), rest)
    | '[' :: rest => do
      guard (0 < depth)
      match skipBlank rest with
      | ']' :: rest => return (.arr [], rest)
      | rest =>
        let (items, rest) ← elements? d fuel (depth - 1) rest
        return (.arr items, rest)
    | '{' :: rest => do
      guard (0 < depth)
      match skipBlank rest with
      | '}' :: rest => return (.obj [], rest)
      | rest =>
        let (members, rest) ← members? d fuel (depth - 1) rest
        return (← d.object? (depth < d.depth) members, rest)
    | rest => do
      let (numeral, rest) ← numeral? rest
      return (← d.number? numeral, rest)

def elements? (d : Dialect) : Nat → Nat → List Char → Option (List Json × List Char)
  | 0, _, _ => none
  | fuel + 1, depth, text => do
    let (item, rest) ← value? d fuel depth text
    match skipBlank rest with
    | ',' :: rest =>
      let (items, rest) ← elements? d fuel depth rest
      return (item :: items, rest)
    | ']' :: rest => return ([item], rest)
    | _ => none

def members? (d : Dialect) :
    Nat → Nat → List Char → Option (List (String × Json) × List Char)
  | 0, _, _ => none
  | fuel + 1, depth, text =>
    match skipBlank text with
    | '"' :: rest => do
      let (key, rest) ← d.key? rest
      let (item, rest) ← value? d fuel depth rest
      match skipBlank rest with
      | ',' :: rest =>
        let (members, rest) ← members? d fuel depth rest
        return ((String.ofList key, item) :: members, rest)
      | '}' :: rest => return ([(String.ofList key, item)], rest)
      | _ => none
    | _ => none

end

def Dialect.value? (d : Dialect) (text : List Char) : Option (Json × List Char) :=
  Json.value? d (2 * text.length + 2) d.depth text

def Dialect.parse? (d : Dialect) (text : String) : Option Json := do
  let (v, rest) ← d.value? text.toList
  guard (skipBlank rest).isEmpty
  return v

def parse? : String → Option Json := Dialect.json.parse?

end Json

end UnitScript
