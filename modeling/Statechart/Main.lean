import Statechart.Command.Run

/-! The command line of the program. -/
namespace Statechart

/-- The reason behind a number that the system gives for it, on some ways below zero. -/
def ReadError.ofCode? (code : UInt32) : Option ReadError :=
  match min code (0 - code) with
  | 2 => some .notFound
  | 13 => some (.other "Permission denied (os error 13)")
  | 20 => some .notDirectory
  | 21 => some .isDirectory
  | 36 => some .nameTooLong
  | _ => none

/-- What a path leads to. What cannot be read is there all the same if the path can be followed. -/
def look (path : String) : IO Found := do
  try
    return .ofRead (decodeText (← IO.FS.readBinFile path))
  catch e =>
    let known : Option ReadError :=
      match e with
      | .noFileOrDirectory .. => some .notFound
      | .inappropriateType _ code _ | .invalidArgument _ code _ | .permissionDenied _ code _ =>
        ReadError.ofCode? code
      | _ => none
    let reason := known.getD (.other (toString e))
    try
      discard <| IO.FS.realPath path
      return .unreadable reason
    catch _ => return .absent reason

/-- Looks at everything that a run with some arguments may look at. -/
def surroundings (arguments : List String) : IO Command.Surroundings := do
  let home := (← IO.getEnv "HOME").filter (· != "")
  match Command.ofArguments arguments with
  | .error _ => return { files := fun _ => .absent .notFound, standardInput := .ok "", home }
  | .ok c =>
    let seen ← (c.paths home).mapM fun path => return (path, ← look path)
    let standardInput ←
      if Command.isStandardInput c.input then do
        let bytes ← (← IO.getStdin).readBinToEnd
        pure (decodeText bytes)
      else pure (.ok "")
    return { files := fun path => (seen.lookup path).getD (.absent .notFound), standardInput, home }

/-- Tells why there is no analysis, unless that is for those who read arguments to say. -/
def complain : Command.Outcome → IO Unit
  | .usage _ | .printed _ => return
  | .unconfigured reason => IO.eprintln reason.message
  | .failed interruption => IO.eprintln interruption.reason.message

end Statechart

/-- Runs the program. -/
def main (arguments : List String) : IO UInt32 := do
  let s ← Statechart.surroundings arguments
  IO.print (Statechart.Command.standardOutput s arguments)
  let outcome := Statechart.Command.run s arguments
  Statechart.complain outcome
  return outcome.exitCode.toUInt32
