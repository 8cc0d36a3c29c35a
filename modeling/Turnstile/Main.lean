import Turnstile.CommandLine.Run
/-!
The program: reads the file that the command names, prints what the command gives and ends with its
exit code.
-/
open Turnstile

/-- The number of a system error, which some calls give negated. -/
def errorNumber (code : UInt32) : UInt32 := if code < 0x80000000 then code else 0 - code

def faultOf : IO.Error → FileFault
  | .inappropriateType _ code _ => if errorNumber code = 20 then .notDirectory else .isDirectory
  | .invalidArgument _ code _ => if errorNumber code = 36 then .nameTooLong else .missing
  | .permissionDenied .. => .denied
  | _ => .missing

def readContent (path : String) : IO FileContent := do
  try
    let bytes ← IO.FS.readBinFile path
    return match String.fromUTF8? bytes with
      | some text => .ok text
      | none => .error .notText
  catch e => return .error (faultOf e)

def main (arguments : List String) : IO UInt32 := do
  let result ← match Command.ofArguments arguments with
    | .error e => pure (RunResult.ofUsageError e)
    | .ok c => do pure (c.run (← readContent c.file))
  IO.print result.output
  IO.eprint result.errors
  return result.exitCode.toUInt32
