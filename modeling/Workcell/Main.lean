import Workcell.CommandLine
import Workcell.Decimal.Binary64

/-!
The program: reads the files of the configuration directory and, where commands are to be followed, its input, and
writes what the call gives.
-/

set_option autoImplicit false

namespace Workcell

open CommandLine

def readContent (path : String) : IO FileContent := do
  try
    let bytes ← IO.FS.readBinFile path
    match String.fromUTF8? bytes with
    | some text => pure (.text text)
    | none => pure .unreadable
  catch
    | .noFileOrDirectory .. => pure .absent
    | _ => pure .unreadable

def readInput : CommandLine.Request → IO String
  | .run options =>
      if options.list || options.scenario.isSome then pure ""
      else do
        let input ← IO.getStdin
        let bytes ← input.readBinToEnd
        pure ((String.fromUTF8? bytes).getD "")
  | _ => pure ""

end Workcell

def main (args : List String) : IO UInt32 := do
  let request := Workcell.CommandLine.read args
  let dir := request.configDir
  let machine ← Workcell.readContent (Workcell.pathIn dir Workcell.machineFile)
  let settings ← Workcell.readContent (Workcell.pathIn dir Workcell.settingsFile)
  let input ← Workcell.readInput request
  let result : Workcell.CommandLine.Result Float := Workcell.CommandLine.call request machine settings input
  let output ← IO.getStdout
  for line in result.lines do
    output.putStrLn line
  for frame in result.frames do
    output.putStrLn frame.write
  output.flush
  pure (UInt32.ofNat result.exit)
