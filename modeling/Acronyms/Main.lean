import Acronyms.CommandLine.Run

/-!
# The program

The outermost layer: it looks at the files of the machine, reads the standard input, and
writes what a run leaves behind.
-/

set_option autoImplicit false

namespace Acronyms.Program

open CommandLine

/-- What the machine answered instead of the content of a file. -/
def faultOf : IO.Error → ReadFault
  | .noFileOrDirectory _ _ _ => .missing
  | .inappropriateType _ 21 _ => .isDirectory
  | .inappropriateType _ _ _ => .notADirectory
  | error => .refused (toString error)

def textOf (octets : IO ByteArray) : IO (Except ReadFault String) := do
  try return textOfOctets (← octets)
  catch error => return .error (faultOf error)

def machineFiles : FileAccess IO where
  doesExist path := do
    try
      let _ ← IO.FS.realPath path
      return true
    catch _ => return false
  readText path := textOf (IO.FS.readBinFile path)

def machine : IO (Surroundings IO) := do
  return {
    files := machineFiles
    workingDirectory := (← IO.currentDir).toString
    input := do textOf (← IO.getStdin).readBinToEnd }

end Acronyms.Program

def main (arguments : List String) : IO UInt32 := do
  let outcome ← Acronyms.CommandLine.run (← Acronyms.Program.machine) arguments
  for report in outcome.reports do
    IO.eprintln report
  let stdout ← IO.getStdout
  stdout.putStr outcome.output
  stdout.flush
  return UInt32.ofNat outcome.code
