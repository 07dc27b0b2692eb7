import SiteAudit.Command.Run
import SiteAudit.Log.Timestamp
import SiteAudit.Service
/-!
# The program

The program reads the working directory into a disk, runs the command line over it, and writes what
the run leaves behind.  Where a run asks for the service, requests are read from the standard input:
a line holds a method, a path and, behind them, a body.
-/
namespace SiteAudit.Program

/-- How deep directories are read. -/
def maxDepth : Nat := 64

/-- Reads what is in a directory.  Directories that no scan enters are left out. -/
def load : Nat → String → IO (List (String × Entry))
  | 0, _ => return []
  | k + 1, name => do
    let listed ← (← IO.FS.realPath name).readDir
    listed.toList.filterMapM (fun e => do
      let data ← e.path.symlinkMetadata
      match data.type with
      | .file => return some (e.fileName, .file (← IO.FS.readBinFile e.path).toList)
      | .symlink => return some (e.fileName, .link (← IO.FS.realPath e.path).toString)
      | .dir =>
        if Scan.skippedDirectories.contains e.fileName then return none
        return some (e.fileName, .directory (← load k e.path.toString))
      | .other => return none)

/-- The present moment, read off a new file. -/
def moment : IO Log.Timestamp := do
  let (_, file) ← IO.FS.createTempFile
  let time := (← file.metadata).modified
  IO.FS.removeFile file
  return { seconds := time.sec.toNat, milliseconds := time.nsec.toNat / 1000000 }

/-- Writes the log file of a run. -/
def writeLog (r : Command.Result) : IO Unit := do
  match r.logPlace with
  | none => return ()
  | some place =>
    match r.disk.entry? place with
    | some (.file bytes) => IO.FS.writeBinFile (r.disk.fullName place) ⟨bytes.toArray⟩
    | _ => return ()

/-- A request on a line: a method, a path and a body. -/
def requestOf (line : String) : Service.Request :=
  match line.trimAscii.toString.splitOn " " with
  | method :: path :: [] => { method, path }
  | method :: path :: body => { method, path, body := some (" ".intercalate body) }
  | words => { method := "".intercalate words, path := "" }

/-- Answers requests until the input ends. -/
partial def serve : IO Unit := do
  let line ← (← IO.getStdin).getLine
  if line.isEmpty then return
  let reply := Service.answer Audit.default (requestOf line)
  IO.println (toString reply.status ++ " " ++ reply.body.text)
  (← IO.getStdout).flush
  serve

end SiteAudit.Program

open SiteAudit in
def main (args : List String) : IO UInt32 := do
  let top := (← IO.currentDir).toString
  let homes := (← IO.getEnv "HOME").toList.map (("", ·))
  let disk : Disk := { top, entries := ← Program.load Program.maxDepth top, homes }
  let r := Command.run .builtIn (← Program.moment).text disk args
  IO.print r.stdout
  IO.eprint r.stderr
  Program.writeLog r
  match r.ending with
  | .accident cause =>
    IO.eprintln cause.message
    return 1
  | .exit status =>
    if r.served.isSome then Program.serve
    return status.toUInt32
