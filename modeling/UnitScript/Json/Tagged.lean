import UnitScript.Json.Parser

namespace UnitScript

namespace Json

def tagKey : String := "___figment_value_id"

def valueKey : String := "___figment_value_value"

/-- The object with these members, or the value that it holds. The outermost object of a file is
never taken for a value with a tag. -/
def ofTagged? (nested : Bool) (members : List (String × Json)) : Option Json := do
  if nested then
    guard (members.all fun (key, v) => key ≠ tagKey || v.uint64?.isSome)
    match members.reverse.lookup valueKey with
    | some v => return v
    | none => return ofMembers (members.filter fun (key, _) => key ≠ tagKey)
  else return ofMembers members

def Dialect.file : Dialect :=
  { Dialect.json with object? := ofTagged? }

end Json

end UnitScript
