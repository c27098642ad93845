import PbrTelemetry.Cli.Run

/-!
# The program

The program with the files of the system.  It has no network: every server counts as not reachable.
-/

open PbrTelemetry

def readSystemFile : FileReader IO := fun path => do
  try
    let content ← IO.FS.readBinFile path
    return .ok content.data.toList
  catch
    | .noFileOrDirectory _ _ _ => return .error .notFound
    | .inappropriateType _ _ _ => return .error .isDirectory
    | error => return .error (.other (toString error))

def main (words : List String) : IO UInt32 := do
  let report ← Cli.run
    { logFilter := ← IO.getEnv Cli.logVariable
      read := readSystemFile
      connect := fun _ => return false
      server := { session := {} } }
    words
  report.lines.forM fun line => IO.println line
  match report.error with
  | some error => IO.eprintln (Cli.programName ++ ": " ++ error)
  | none => return report.exit.toUInt32
  return report.exit.toUInt32
