import UnitScript.Json.Basic

namespace UnitScript

namespace Json

def hexDigit (n : Nat) : Char :=
  if n < 10 then Char.ofNat ('0'.toNat + n) else Char.ofNat ('a'.toNat + (n - 10))

def hexDigits : Nat → Nat → List Char
  | 0, _ => []
  | width + 1, n => hexDigits width (n / 16) ++ [hexDigit (n % 16)]

def writeChar (out : String) (c : Char) : String :=
  if c = '"' then out ++ "\\\""
  else if c = '\\' then out ++ "\\\\"
  else if c = '\x08' then out ++ "\\b"
  else if c = '\x0c' then out ++ "\\f"
  else if c = '\n' then out ++ "\\n"
  else if c = '\r' then out ++ "\\r"
  else if c = '\t' then out ++ "\\t"
  else if c.toNat < 0x20 then out ++ "\\u" ++ String.ofList (hexDigits 4 c.toNat)
  else out.push c

def writeString (out text : String) : String :=
  (text.toList.foldl writeChar (out.push '"')).push '"'

mutual

def write (out : String) : Json → String
  | .null => out ++ "null"
  | .bool true => out ++ "true"
  | .bool false => out ++ "false"
  | .int n => out ++ toString n
  | .decimal mantissa exponent => out ++ toString mantissa ++ "e" ++ toString exponent
  | .str text => writeString out text
  | .arr items => (writeItems (out.push '[') items).push ']'
  | .obj fields => (writeMembers (out.push '{') fields).push '}'

def writeItems (out : String) : List Json → String
  | [] => out
  | [item] => write out item
  | item :: items => writeItems ((write out item).push ',') items

def writeMembers (out : String) : List (String × Json) → String
  | [] => out
  | [(key, item)] => write ((writeString out key).push ':') item
  | (key, item) :: fields =>
    writeMembers ((write ((writeString out key).push ':') item).push ',') fields

end

def render (v : Json) : String :=
  write "" v

end Json

end UnitScript
