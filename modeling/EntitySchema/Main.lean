/-
The program.
-/
import EntitySchema.CommandLine

set_option autoImplicit false

open EntitySchema

/-- The number of a fault and the words for it. Some numbers are told as negative ones, which wrap
around. -/
def faultOfCode (code : UInt32) (reason : String) : FileFault :=
  .ofCode (min code.toNat (-code).toNat) reason

/-- The fault that the system tells. -/
def faultOf : IO.Error → FileFault
  | .alreadyExists _ code reason | .noFileOrDirectory _ code reason
  | .invalidArgument _ code reason | .permissionDenied _ code reason
  | .resourceExhausted _ code reason | .inappropriateType _ code reason
  | .noSuchThing _ code reason | .interrupted _ code reason | .otherError code reason
  | .resourceBusy code reason | .resourceVanished code reason | .unsupportedOperation code reason
  | .hardwareFault code reason | .unsatisfiedConstraints code reason
  | .illegalOperation code reason | .protocolError code reason | .timeExpired code reason =>
    faultOfCode code reason
  | error => .other 5 (toString error)

/-- The bytes of a file, if it can be read. -/
def readBytes (path : Path) : IO (Except FileFault (List Nat)) := do
  try
    let bytes ← IO.FS.readBinFile path.toString
    return .ok (bytes.toList.map UInt8.toNat)
  catch error => return .error (faultOf error)

/-- Runs the command line on the files that it names. -/
def main (arguments : List String) : IO UInt32 := do
  let environment ← IO.getEnv CommandLine.databaseVariable
  let paths := ((CommandLine.parse? arguments environment).map (·.paths)).getD []
  let files ← paths.mapM fun path => do return (path, ← readBytes path)
  let outcome := CommandLine.run arguments environment fun path =>
    (files.lookup path).getD (.error .missing)
  IO.print outcome.output
  return outcome.exitCode.toUInt32
