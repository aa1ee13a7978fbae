import UnitScript.Json.Printer
import UnitScript.Text.Combining
import UnitScript.Text.Hidden

namespace UnitScript

namespace Text

def hex (n : Nat) : List Char :=
  match (Json.hexDigits 6 n).dropWhile (· = '0') with
  | [] => ['0']
  | digits => digits

def escape (c : Char) : List Char :=
  if c = '"' then ['\\', '"']
  else if c = '\\' then ['\\', '\\']
  else if c = '\n' then ['\\', 'n']
  else if c = '\r' then ['\\', 'r']
  else if c = '\t' then ['\\', 't']
  else if c = '\x00' then ['\\', '0']
  else if isHidden c || isCombining c then ['\\', 'u', '{'] ++ hex c.toNat ++ ['}']
  else [c]

def quoted (text : String) : String :=
  String.ofList ('"' :: text.toList.flatMap escape ++ ['"'])

def bracketed (items : List String) : String :=
  "[" ++ String.intercalate ", " items ++ "]"

end Text

end UnitScript
