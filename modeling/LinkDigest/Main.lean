import LinkDigest.Digest
import Std.Time.DateTime.Timestamp

/-!
# The program

Reads the files that the command line names and prints the digest.
-/

namespace LinkDigest.Program

/-- The text of a file; none if it cannot be read. -/
def readText? (path : String) : IO (Option (List Char)) := do
  try
    let bytes ← IO.FS.readBinFile path
    return Text.Utf8.decode? bytes.toList
  catch _ =>
    return none

/-- The texts of files, by name. -/
def readAll (paths : List String) : IO (List (String × Option (List Char))) :=
  paths.mapM fun path => do return (path, ← readText? path)

/-- The files that a command line names. -/
def namedFiles (arguments : List String) : List String :=
  match Invocation.ofArguments arguments with
  | .run options => options.corpus :: options.config.toList
  | _ => []

/-- The present time. -/
def currentTime : IO Instant := do
  let nanos := (← Std.Time.Timestamp.now).toNanosecondsSinceUnixEpoch.val
  return ⟨nanos / 1000000000, (nanos % 1000000000).toNat⟩

end LinkDigest.Program

open LinkDigest in
def main (arguments : List String) : IO UInt32 := do
  let texts ← Program.readAll (Program.namedFiles arguments)
  let files (path : String) := (texts.lookup path).join
  let output := Output.ofArguments arguments files (← Program.currentTime)
  for line in output.lines do
    IO.println line
  match output.complaint with
  | some complaint => IO.eprintln ("error: " ++ complaint)
  | none => pure ()
  return output.exitStatus.toUInt32
