import UnitScript.Instr.Codec
import UnitScript.Module.Definition

namespace UnitScript

namespace EntryPoint

def encode (e : EntryPoint) : Json :=
  .obj [
    ("name", .str e.name),
    ("offset", .ofNat e.offset.toNat),
    ("params", .ofNat e.params.toNat),
    ("locals", .ofNat e.locals.toNat)]

def fieldNames : List String := ["name", "offset", "params", "locals"]

def decode? (reader : Json.Reader) (v : Json) : Option EntryPoint := do
  let fields ← v.record? true reader.surplus fieldNames
  return {
    name := ← Json.required fields "name" Json.str?
    offset := ← Json.required fields "offset" Json.uint32?
    params := ← Json.optional fields "params" 0 Json.uint16?
    locals := ← Json.optional fields "locals" 0 Json.uint16?
  }

end EntryPoint

namespace ModuleDefinition

def encode (d : ModuleDefinition) : Json :=
  .obj [
    ("pieces", .arr (d.pieces.toList.map .str)),
    ("statics", .ofNat d.statics.toNat),
    ("scripts", .arr (d.scripts.toList.map EntryPoint.encode)),
    ("code", .arr (d.code.toList.map Instr.encode))]

def fieldNames : List String := ["pieces", "statics", "scripts", "code"]

def decode? (reader : Json.Reader) (v : Json) : Option ModuleDefinition := do
  let fields ← v.record? true reader.surplus fieldNames
  let pieces ← Json.optional fields "pieces" [] (Json.list? Json.str?)
  let statics ← Json.optional fields "statics" 0 Json.uint16?
  let scripts ← Json.required fields "scripts" (Json.list? (EntryPoint.decode? reader))
  let code ← Json.required fields "code" (Json.list? (Instr.decode? reader))
  return { pieces := pieces.toArray, statics, scripts := scripts.toArray, code := code.toArray }

end ModuleDefinition

end UnitScript
