import UnitScript.Yaml

namespace UnitScript

inductive Format
  | json
  | yaml
  deriving DecidableEq

namespace Format

/-- The ending is looked for in the last part of the path. A name that is nothing but a point and an
ending has none. -/
def ofPath (path : String) : Format :=
  match path.toList.reverse.takeWhile (· ≠ '/') with
  | 'n' :: 'o' :: 's' :: 'j' :: '.' :: _ :: _ => .json
  | _ => .yaml

def parse? (format : Format) (text : String) : Option Json := do
  let v ← match format with
    | .json => Json.Dialect.file.parse? text
    | .yaml => Yaml.parse? text
  guard v.fields?.isSome
  return v

end Format

end UnitScript
