import Rollout.Command.Run
import Rollout.Url.Parser

/-! The program on the folder that it is started in. -/

namespace Rollout.Command

def readStatus (path : String) : IO FileStatus := do
  if path.isEmpty then return .missing
  let file := (← IO.currentDir) / path
  if ← file.isDir then return .folder
  if ← file.pathExists then
    try
      match String.fromUTF8? (← IO.FS.readBinFile file) with
      | some content => return .text content
      | none => return .binary
    catch _ => return .binary
  else return .missing

def pathsOf : Option Request → List String
  | some (.invoke i) =>
    i.config.toList ++ Config.fileNames ++
      match i.action with
      | .planTask file | .planLrp file => [file]
      | _ => []
  | _ => []

/-- The entries of this process, each of which a NUL ends. -/
def readEnvironment : IO Environment := do
  try
    let bytes ← IO.FS.readBinFile "/proc/self/environ"
    return (bytes.data.toList.splitBy fun _ b => b != 0).map (·.dropWhile (· == 0))
  catch _ => return []

end Rollout.Command

open Rollout Rollout.Command in
def main (args : List String) : IO UInt32 := do
  let files ← (pathsOf (parse args)).mapM fun path => return (path, ← readStatus path)
  let env ← readEnvironment
  let folder := (← IO.currentDir).toString
  let outcome := run ⟨Url.parser, env, fun path => (files.lookup path).getD .missing, folder⟩ args
  match outcome with
  | .done effect =>
    if let some (path, content) := effect.written then IO.FS.writeFile path content
    IO.print effect.output
  | .failed line => IO.eprintln line
  | .misused => IO.eprintln "misuse of the command line"
  return outcome.exitCode.toUInt32
