import OpenScript.Command

/-!
# Main — the program itself

Reads the files that the command line names, carries the command out and shows its report.
-/

namespace OpenScript.Command

/-- How many steps a run may take. -/
def stepLimit : Nat := Nat.pow 2 62

/-- The number of an operating system's error, whichever sign it comes with. -/
def errorNumber (code : UInt32) : UInt32 := min code (-code)

/-- What is found under a path. -/
def entryAt (path : String) : IO FileEntry := do
  try return .content (← IO.FS.readBinFile path)
  catch
    | .noFileOrDirectory .. => return .absent .noEntry
    | .inappropriateType _ code _ =>
      return if errorNumber code == 20 then .absent .notDirectory else .directory
    | .invalidArgument _ code _ =>
      return if errorNumber code == 36 then .absent .nameTooLong else .directory
    | _ => return .directory

/-- Carries out a command line and shows its report. -/
def perform (words : List String) : IO UInt32 := do
  let paths := ((ofArguments? words).map Command.paths).getD []
  let entries ← paths.mapM fun path => do return (path, ← entryAt path)
  let files path := (entries.lookup path).getD (.absent .noEntry)
  let endless : Report := { code := 1, error := "Error: too long\n" }
  let report := (Command.main stepLimit files words).getD endless
  IO.print report.out
  IO.eprint report.error
  return report.code.toUInt32

end OpenScript.Command

/-- The program. -/
def main (words : List String) : IO UInt32 := OpenScript.Command.perform words
