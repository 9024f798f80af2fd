import NumberRules.Command.Run

/-! # The program

Reads the files that the arguments name, runs the command on their contents, and prints what it
comes to.
-/

namespace NumberRules.Command
set_option autoImplicit false

/-- The error of a file for an error of the system. -/
def fileError : IO.Error → FileError
  | .noFileOrDirectory .. => .notFound
  | .permissionDenied .. => .denied
  | .inappropriateType _ code details =>
    if code = 20 then .notDirectory else if code = 21 then .isDirectory else .other details
  | .invalidArgument _ code details =>
    if code = 36 then .nameTooLong else .other details
  | e => .other (toString e)

/-- The content of a file, or the reason why it cannot be had. -/
def readContent (path : String) : IO (Except FileError String) := do
  try
    let bytes ← IO.FS.readBinFile path
    return (String.fromUTF8? bytes).elim (.error .notText) .ok
  catch e => return .error (fileError e)

end NumberRules.Command

open NumberRules.Command in
def main (args : List String) : IO UInt32 := do
  let contents ← (pathsOf args).mapM fun path => return (path, ← readContent path)
  let setting : Setting :=
    { contentOf := fun path => (contents.lookup path).getD (.error .notFound)
      ruleSet := ← IO.getEnv ruleSetVariable
      log := ← IO.getEnv logVariable }
  let outcome := run setting args
  IO.print outcome.output
  IO.eprint outcome.errors
  return UInt32.ofNat outcome.exit
