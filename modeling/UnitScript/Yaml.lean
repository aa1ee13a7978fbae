import UnitScript.Json.Tagged

/-!
YAML as far as it is written like JSON: braces, brackets, quoted strings and plain scalars. Such a
text does not always mean the same in both. Here negative zero is a whole number, a number too large
for a double is a string, an escape names one character by itself, and characters that YAML takes
for the end of a line are folded inside a string.
-/

namespace UnitScript

namespace Yaml

def isAllowed (c : Char) : Bool :=
  c = '\t' || c = '\n' || c = '\r' || (' ' ≤ c && c ≤ '~') || c.toNat = 0x85 ||
    (0xa0 ≤ c.toNat && c.toNat ≤ 0xfffd) || 0x10000 ≤ c.toNat

def isBreak (c : Char) : Bool :=
  c = '\n' || c = '\r' || c.toNat = 0x85 || c.toNat = 0x2028 || c.toNat = 0x2029

inductive Glyph
  | plain (c : Char)
  | escaped (c : Char)
  deriving DecidableEq

def glyphs? : List Char → Option (List Glyph × List Char)
  | [] => none
  | '"' :: rest => some ([], rest)
  | '\\' :: 'u' :: a :: b :: c :: d :: rest => do
    let word ← Json.hexWord? a b c d
    guard !(Json.isHighSurrogate word || Json.isLowSurrogate word)
    let (tail, left) ← glyphs? rest
    return (.escaped (Char.ofNat word) :: tail, left)
  | '\\' :: c :: rest => do
    let named ← Json.escape? c
    let (tail, left) ← glyphs? rest
    return (.escaped named :: tail, left)
  | c :: rest => do
    guard (c ≠ '\\')
    let (tail, left) ← glyphs? rest
    return (.plain c :: tail, left)

def isMark : List Glyph → Bool
  | .plain a :: .plain b :: .plain c :: .plain next :: _ =>
    (a = '-' || a = '.') && b = a && c = a && (next = ' ' || next = '\t' || isBreak next)
  | _ => false

def hasMark : List Glyph → Bool
  | [] => false
  | .plain c :: rest => isBreak c && isMark rest || hasMark rest
  | .escaped _ :: rest => hasMark rest

/-- What blanks followed by line breaks come to, both given latest first. One break is a space, and
of several the first is dropped; but the separators of lines and paragraphs stay. -/
def spacing (blanks breaks : List Char) : List Char :=
  match breaks.reverse with
  | [] => blanks.reverse
  | ['\n'] => [' ']
  | '\n' :: more => more
  | breaks => breaks

def lineBreak (c : Char) : Char :=
  if c.toNat = 0x2028 || c.toNat = 0x2029 then c else '\n'

/-- Fold the lines of a string. Held back, latest first, are the blanks since the last character, or
the breaks once there is one. -/
def foldLines (blanks breaks : List Char) : List Glyph → List Char
  | [] => spacing blanks breaks
  | .plain '\r' :: .plain '\n' :: rest => foldLines [] ('\n' :: breaks) rest
  | .plain c :: rest =>
    if isBreak c then foldLines [] (lineBreak c :: breaks) rest
    else if c = ' ' || c = '\t' then
      foldLines (if breaks.isEmpty then c :: blanks else []) breaks rest
    else spacing blanks breaks ++ c :: foldLines [] [] rest
  | .escaped c :: rest => spacing blanks breaks ++ c :: foldLines [] [] rest

def stringTail (text : List Char) : Option (List Char × List Char) := do
  let (glyphs, rest) ← glyphs? text
  guard !hasMark glyphs
  return (foldLines [] [] glyphs, rest)

def keyLimit : Nat := 1024

def takeBytes : Nat → List Char → List Char
  | _, [] => []
  | bytes, c :: rest =>
    if c.utf8Size ≤ bytes then c :: takeBytes (bytes - c.utf8Size) rest else []

def keyTail (text : List Char) : Option (List Char × List Char) := do
  let line := (takeBytes keyLimit text).takeWhile fun c => !isBreak c
  let (key, rest) ← stringTail line
  match Json.skipBlank rest with
  | ':' :: rest => return (key, text.drop (line.length - rest.length))
  | _ => none

def ofNumeral (n : Json.Numeral) : Json :=
  if n.isInfinite then .str (String.ofList n.text)
  else if n.isWhole then .int n.mantissa
  else .decimal n.mantissa n.scale

def flow : Json.Dialect where
  depth := 128
  string? := stringTail
  key? := keyTail
  number? n := some (ofNumeral n)
  object? := Json.ofTagged?

def isLayout (c : Char) : Bool := c = ' ' || isBreak c

def skipMark : List Char → List Char
  | c :: rest => if c.toNat = 0xfeff then rest else c :: rest
  | [] => []

/-- The document that a text spells. A text with nothing in it is an empty mapping. -/
def parse? (text : String) : Option Json := do
  guard (text.toList.all isAllowed)
  match (skipMark text.toList).dropWhile isLayout with
  | [] => return .obj []
  | '\t' :: _ => none
  | chars =>
    let (v, rest) ← flow.value? chars
    guard ((rest.dropWhile fun c => c = ' ' || c = '\t').all isLayout)
    return v

end Yaml

end UnitScript
