import BpmnAudit.CommandLine.Program

/-!
# Command line

The outer layer of the program: it reads files and environment variables, runs the program as a
function, and writes what it answers.
-/

namespace BpmnAudit

/-- What a path leads to in the file system. -/
def readEntry (path : String) : IO (Option Entry) := do
  try
    let bytes ← IO.FS.readBinFile path
    return some (.file bytes.toList)
  catch
    | .inappropriateType .. => return some .folder
    | _ => return none

/-- Reads what each of some names stands for. -/
def readNamed {α : Type} (read : String → IO (Option α)) (names : List String) :
    IO (List (String × α)) :=
  names.filterMapM fun name => do
    return (← read name).map fun value => (name, value)

def HostLine.text (line : HostLine) : String :=
  if line.json then
    Json.compactAscii (.object
      ([("level", .text line.level), ("message", .text line.message)] ++
        (if line.extra.isEmpty then [] else [("extra", .object line.extra)]) ++
        (line.exception.map fun trace => ("exception", Json.text trace)).toList))
  else line.level ++ " | " ++ line.message

end BpmnAudit

open BpmnAudit in
/-- Runs the program on the arguments of the process. -/
def main (arguments : List String) : IO UInt32 := do
  let settingTexts ← readNamed (fun name => IO.getEnv name) (Settings.Variable.all.map (·.tag))
  let entries ← readNamed readEntry arguments
  let completion := runProgram
    { arguments
      environment := fun name => settingTexts.lookup name
      entryAt := fun path => entries.lookup path }
  for line in completion.lines do
    IO.eprintln line.text
  IO.print completion.stdout
  IO.eprint completion.stderr
  if let some crash := completion.crash then
    IO.eprintln crash.message
  return completion.status.toUInt32
