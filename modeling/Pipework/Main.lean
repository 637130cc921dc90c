import Std.Time.Format
import Pipework.Program.Run

/-!
The command line: the host of a run is the machine itself.
-/

set_option autoImplicit false
set_option relaxedAutoImplicit false

namespace Pipework.Machine

/-- Run an action; nothing if it fails. -/
def attempt {α : Type} (action : IO α) : IO (Option α) := do
  try return some (← action) catch _ => return none

partial def readAll (stream : IO.FS.Stream) (read : ByteArray) : IO ByteArray := do
  let more ← stream.read 65536
  if more.isEmpty then return read else readAll stream (read ++ more)

def readInput : IO (Option Text) := do
  let bytes ← readAll (← IO.getStdin) .empty
  return (String.fromUTF8? bytes).map String.toList

def directoryOf (path : Text) : Text := ((path.reverse.dropWhile (· != '/')).drop 1).reverse

def openForAppending (path : Text) : IO IO.FS.Handle :=
  IO.FS.Handle.mk (String.ofList path) .append

/-- Make a file and its directories where they are missing. -/
def prepare (path : Text) : IO Bool := do
  let _ ← attempt (IO.FS.createDirAll (String.ofList (directoryOf path)))
  return (← attempt (openForAppending path)).isSome

def timeText : IO String := do
  let now ← Std.Time.Timestamp.now
  let date := Std.Time.DateTime.ofTimestamp now Std.Time.TimeZone.ZoneRules.UTC
  return date.format "uuuu-MM-dd'T'HH:mm:ss'Z'"

def append (path line : Text) : IO Unit := do
  let time ← timeText
  let _ ← attempt do
    let file ← openForAppending path
    file.putStrLn (time ++ " " ++ String.ofList line)

def host : IO (Host IO) := do
  let home := ((← IO.getEnv "HOME").getD "~").toList
  return {
    home := home
    read := fun path => do
      return (← attempt (IO.FS.readFile (String.ofList path))).map String.toList
    prepare := prepare
    append := append
    input := readInput }

def randomWord : IO UInt64 := do
  return (← IO.getRandomBytes 8).foldl (fun word byte => word * 256 + byte.toUInt64) 0

end Pipework.Machine

def main (arguments : List String) : IO UInt32 := do
  let supply := Pipework.IdSupply.ofSeed (← Pipework.Machine.randomWord)
    (← Pipework.Machine.randomWord)
  let outcome ← Pipework.Program.run (← Pipework.Machine.host) supply
    (arguments.map String.toList)
  IO.print (String.ofList outcome.output)
  unless outcome.complaint.isEmpty do
    IO.eprintln (String.ofList outcome.complaint)
  return outcome.exit.toUInt32
