import PatternBuild.CommandLine.Run
import PatternBuild.CommandLine.Usage

/-!
# The program

The files below the working directory are read into a workplace, the command is done there, and
what has changed is written back.
-/

namespace PatternBuild.Main

open CommandLine

/-- the variables that the tool and its steps look at -/
def variableNames : List String := ["HOME", "PATH", "POUL_EXCLUDE", "POUL_FILE", "POUL_SETTINGS"]

def readEnvironment : IO (List (String × String)) := do
  let found ← variableNames.mapM fun name => do
    return (← IO.getEnv name).map fun value => (name, value)
  return found.filterMap id

/-- put what stands below a directory on a disk, under paths that start with `shown`; links are left
out -/
partial def readInto (d : Disk) (dir : IO.FS.DirEntry) (shown : String) : IO Disk := do
  let mut d := d
  for entry in ← dir.path.readDir do
    let here := shown ++ entry.fileName
    match (← entry.path.symlinkMetadata).type with
    | .dir =>
      d := ((d.makeDirs (Text.octets here)).toOption).getD d
      d ← readInto d entry (here ++ "/")
    | .file =>
      let content ← IO.FS.readBinFile entry.path
      d := ((d.install (Text.octets here) content.toList).toOption).getD d
    | _ => pure ()
  return d

/-- write the files that have changed, and remove those that are gone -/
def writeBack (before after : Disk) : IO Unit := do
  let start := Disk.pathOf before.cwd ++ "/"
  let content (d : Disk) : DiskNode → Option Text.Bytes
    | .file n => some (d.file n).content
    | _ => none
  let changed := after.nodes.entries.filter fun (path, node) =>
    path.startsWith start &&
      ((before.nodes.get? path).bind (content before) ≠ content after node ||
        (before.nodes.get? path).isNone)
  let gone := before.nodes.entries.filter fun (path, _) =>
    path.startsWith start && (after.nodes.get? path).isNone
  for (path, node) in changed do
    let shown := Text.textOf path
    match node, content after node with
    | .dir _ _, _ => IO.FS.createDirAll shown
    | _, some bytes => IO.FS.writeBinFile shown (ByteArray.mk bytes.toArray)
    | _, none => pure ()
  for (path, node) in gone.reverse do
    match node with
    | .dir _ _ => IO.FS.removeDir (Text.textOf path)
    | _ => IO.FS.removeFile (Text.textOf path)

/-- do what a command line says; the outcome is the exit code -/
def perform (args : List String) : IO UInt32 := do
  let environment ← readEnvironment
  match Arguments.read environment args with
  | .error fault =>
    if fault.isRequest then
      IO.print fault.message
      return 0
    else
      IO.eprint fault.message
      return 2
  | .ok a =>
    let here := (← IO.currentDir).toString
    let cwd := ((Text.octets here).splitOn "/").filter (· ≠ "")
    let disk ← readInto (Disk.empty cwd) ⟨← IO.currentDir, "."⟩ ""
    let (outcome, w) := (run a).perform (.start disk environment)
    let output ← IO.getStdout
    output.write (ByteArray.mk w.printed.toArray)
    output.flush
    writeBack disk w.disk
    match outcome with
    | .ok code => return UInt32.ofNat (code % 256).toNat
    | .error fault =>
      IO.eprintln ("poul error: " ++ fault.message)
      return 1

end PatternBuild.Main

def main (args : List String) : IO UInt32 := PatternBuild.Main.perform args
