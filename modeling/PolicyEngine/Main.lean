import PolicyEngine.Command.Run
import PolicyEngine.DateTime
import Std.Time.DateTime.Timestamp

/-! The program: it answers what a command asks for from the disk, and prints what it leaves. -/
namespace PolicyEngine

def FileFault.ofError : IO.Error → FileFault
  | .noFileOrDirectory .. => .notFound
  | .inappropriateType _ code details =>
    if code = 20 then .notADirectory else if code = 21 then .isADirectory else .other details
  | e => .other (toString e)

def readFile (name : String) : IO FileContent := do
  try
    return .ok (← IO.FS.readBinFile name).toList
  catch e => return .error (.ofError e)

def Reads.perform : Reads α → IO α
  | .done a => return a
  | .ask name next => do (next (← readFile name)).perform

def currentTime : IO String := do
  let nanoseconds := (← Std.Time.Timestamp.now).toNanosecondsSinceUnixEpoch.val.toNat
  return (DateTime.ofSeconds (nanoseconds / 1000000000)).render (nanoseconds % 1000000000)

end PolicyEngine

open PolicyEngine in
def main (args : List String) : IO UInt32 := do
  let transcript ← (CommandLine.run args (← currentTime)).perform
  IO.print transcript.outText
  IO.eprint transcript.errText
  return transcript.status.toUInt32
