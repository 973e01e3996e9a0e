import Clearance.Command.Run

/-!
# The program

Runs the command that its arguments ask for on the machine at hand.
-/

namespace Clearance

/-- The number of an error, which some operations report with its sign turned. -/
def errorNumber (code : UInt32) : UInt32 := if code < 0x80000000 then code else 0 - code

/-- The fault that the machine reports. -/
def FileFault.ofError : IO.Error → FileFault
  | .noFileOrDirectory _ _ _ => .missing
  | .inappropriateType _ code _ => if errorNumber code = 20 then .notDirectory else .isDirectory
  | .invalidArgument _ code _ =>
    if errorNumber code = 36 then .tooLong
    else .other ("Invalid argument (os error " ++ toString (errorNumber code) ++ ")")
  | .permissionDenied _ code _ =>
    .other ("Permission denied (os error " ++ toString (errorNumber code) ++ ")")
  | e => .other (toString e)

/-- The answer of the machine about a path, or its fault. -/
def tryPath {α : Type} (path : String) (act : IO α) : IO (Except FileFault α) := do
  match checkPath path with
  | .error fault => return .error fault
  | .ok () =>
    try return .ok (← act)
    catch e => return .error (.ofError e)

/-- The directory in which a path lies. -/
def directoryOf (path : String) : String :=
  String.ofList ((path.toList.reverse.dropWhile (· ≠ '/')).drop 1).reverse

/-- The machine at hand. -/
def machineAtHand : Host IO where
  readBytes path := tryPath path do return (← IO.FS.readBinFile path).data.toList
  writeText path text := tryPath path (IO.FS.writeFile path text)
  isThere path := do
    match ← tryPath path (IO.FS.Handle.mk path .read) with
    | .ok _ => return true
    | .error _ => return false
  getVariable name := IO.getEnv name
  searchRoots := do
    let program := directoryOf (toString (← IO.appPath))
    return [program, directoryOf program, toString (← IO.currentDir)]

end Clearance

/-- Run the program. -/
def main (arguments : List String) : IO UInt32 := do
  let exit ← Clearance.Command.runArguments Clearance.machineAtHand arguments
  (← IO.getStdout).putStr exit.output
  (← IO.getStderr).putStr exit.errors
  return exit.code
