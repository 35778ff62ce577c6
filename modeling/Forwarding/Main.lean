import Forwarding.CommandLine.Machine

/-! The program on the system: it gathers what a run may read, runs, and writes the outcome. -/
namespace Forwarding.CommandLine

def readSystemFile (path : Text) : IO (Except AccessError (List UInt8)) := do
  let name := String.ofList path
  try
    return .ok (← IO.FS.readBinFile name).toList
  catch e =>
    let isDirectory ← try (← IO.FS.realPath name).isDir catch _ => pure false
    if isDirectory then return .error .isADirectory
    match e with
    | .permissionDenied .. => return .error .notPermitted
    | .inappropriateType .. => return .error .notADirectory
    | .invalidArgument .. => return .error .nameTooLong
    | _ => return .error .notFound

def readSystemInput : IO (List UInt8) := do
  let input ← IO.getStdin
  let mut bytes := ByteArray.empty
  repeat
    let chunk ← input.read 65536
    if chunk.isEmpty then break
    bytes := bytes ++ chunk
  return bytes.toList

def gather (i : Invocation) : IO Surroundings := do
  let paths := (i.paths.map FilePath.clean).filter ('\x00' ∉ ·)
  let contents ← paths.mapM fun path => do return (path, ← readSystemFile path)
  let environment ← IO.getEnv (String.ofList Config.variableName)
  let input ← if i.readsInput then readSystemInput else pure []
  return {
    files := fun path => (contents.lookup path).getD (.error .notFound)
    environment := environment.map String.toList
    input := input }

def write (o : Outcome) : IO UInt32 := do
  (← IO.getStdout).putStr (String.ofList o.stdout)
  (← IO.getStderr).putStr (String.ofList o.stderr)
  return UInt32.ofNat o.status

end Forwarding.CommandLine

open Forwarding CommandLine in
/-- Runs the program. A breakdown is told on standard error. -/
def main (arguments : List String) : IO UInt32 := do
  match Invocation.read (arguments.map String.toList) with
  | .error stop => write (stopped stop)
  | .ok i =>
    match i.runOn .boundless (← gather i) with
    | .ok outcome => write outcome
    | .error breakdown => write ⟨1, [], line breakdown.message⟩
