import Radius.Digest.Md5
import Radius.Inspect

/-!
# `Radius.Main`: the inspector as a program

Reads the arguments, the files and the log variable, lets the inspector decide, and prints
what it says.
-/

set_option autoImplicit false

namespace Radius.Inspect

/-- The fault of a file that the system reports. Its numbers tell a path that leads through a
file from one that leads to a folder, and a name that is too long from other bad ones. -/
def fileFault (fault : IO.Error) : FileFault :=
  match fault with
  | .noFileOrDirectory .. => .notFound
  | .inappropriateType _ number _ => if number = 20 then .notDirectory else .isDirectory
  | .invalidArgument _ number _ => if number = 36 then .nameTooLong else .other (toString fault)
  | _ => .other (toString fault)

/-- The bytes of the file that a path leads to. -/
def readFile (path : String) : IO (Except FileFault (List UInt8)) := do
  try
    let bytes ← IO.FS.readBinFile path
    return .ok bytes.toList
  catch fault => return .error (fileFault fault)

/-- Writes the bytes of a file. -/
def writeFile (path : String) (bytes : List UInt8) : IO (Except FileFault Unit) := do
  try
    IO.FS.writeBinFile path ⟨bytes.toArray⟩
    return .ok ()
  catch fault => return .error (fileFault fault)

/-- Prints what an outcome says. -/
def Outcome.print (outcome : Outcome) : IO UInt32 := do
  for diagnostic in outcome.diagnostics do
    match diagnostic with
    | .line text => IO.eprintln text
    | .record record => IO.eprintln record.line
  IO.print outcome.output
  return outcome.exit.toUInt32

/-- The environment variable that may hold a filter for the log. -/
def logVariable : String := "RUST_LOG"

/-- Carries out what the command line asks for. -/
def perform (options : Options) : IO Outcome := do
  if options.init then
    let written ← writeFile options.samplePath Config.sample.toFile
    return sampleReport options written
  let bytes ←
    match options.config with
    | some path => readFile path
    | none => pure (.error .notFound)
  return report options (loadConfig options fun _ => bytes) (← IO.getEnv logVariable)

end Radius.Inspect

/-- The packet inspector. -/
def main (arguments : List String) : IO UInt32 := do
  match Radius.Inspect.Options.read arguments with
  | .error refusal => (Radius.Inspect.refusalReport refusal).print
  | .ok options => (← Radius.Inspect.perform options).print
