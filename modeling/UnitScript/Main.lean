import UnitScript.Runner.Simulation

namespace UnitScript.Runner

def readText? (path : String) : IO (Option String) := do
  try
    let text ← IO.FS.readFile path
    return some text
  catch _ => return none

end UnitScript.Runner

open UnitScript.Runner in
def main (args : List String) : IO UInt32 := do
  match parseArgs args with
  | .error error =>
    IO.eprintln s!"error: {error.message}"
    return 2
  | .ok .version =>
    IO.println versionLine
    return 0
  | .ok (.simulate options) =>
    let config ←
      match options.configFile with
      | none => pure none
      | some path => readText? path
    let module ← readText? options.module
    let files := fun path => if path = options.module then module else config
    match run options files with
    | .ok lines =>
      for line in lines do
        IO.println line.text
      return 0
    | .error error =>
      for text in error.messages do
        IO.eprintln text
      return 1
