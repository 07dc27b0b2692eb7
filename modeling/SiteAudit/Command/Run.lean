import SiteAudit.Command.Options
import SiteAudit.Json.Value
import SiteAudit.Log.Sinks
import SiteAudit.Report
import SiteAudit.Scan.Basic
import SiteAudit.Settings
/-!
# Running the command line

A run reads its arguments, sets up the log, and checks what it is asked to check.  Reports go to
the standard output, the log and complaints to the standard error output.

* `run` is a whole run over a disk.
* A defect of the settings or a path that is not there ends the run with a complaint; other
  accidents end it with their cause.
-/
namespace SiteAudit.Command

inductive Accident where
  | settings (fault : Settings.Fault)
  | discovery (fault : DiscoveryFault)
  | scan (fault : Scan.Fault)
  | logFile (fault : PathFault) (name : String)
  /-- A path begins with a home directory that is not known. -/
  | homeless

def Accident.message : Accident → String
  | settings fault => fault.message
  | discovery fault => fault.message
  | scan fault => fault.message
  | logFile fault name => fault.message ++ ": " ++ Text.Quoted.quoteString name
  | homeless => "Could not determine home directory."

/-- What a user is told about an accident of the check; nothing for those that end the run with
their cause.  See SPEC_FULL.md:256-259. -/
def Accident.complaint? : Accident → Option String
  | settings fault =>
    match fault with
    | .malformed .. | .notMapping | .badValue (.bad _) | .unreadable (.encoding _) =>
      some ("webcheck: invalid configuration: " ++ fault.message ++ "\n")
    | _ => none
  | discovery fault =>
    match fault with
    | .badPattern f =>
      if f.cause.isValue then some ("webcheck: invalid configuration: " ++ fault.message ++ "\n")
      else none
    | _ => some ("webcheck: invalid configuration: " ++ fault.message ++ "\n")
  | scan fault =>
    match fault with
    | .notFound _ => some (fault.message ++ "\n")
    | .ignoreFile (.encoding _) =>
      some ("webcheck: invalid configuration: " ++ fault.message ++ "\n")
    | _ => none
  | logFile .. | homeless => none

inductive Ending where
  | exit (status : Nat)
  | accident (cause : Accident)

structure Result where
  ending : Ending
  stdout : String := ""
  stderr : String := ""
  /-- Where the service is asked to listen. -/
  served : Option (Option String × Option Int) := none
  /-- Where the log file is. -/
  logPlace : Option (List String) := none
  disk : Disk

/-! ## The log file -/

/-- The parts of a path with the steps back taken. -/
def normalized (parts : List String) : List String :=
  parts.foldl (fun found p => if p = ".." then found.dropLast else found ++ [p]) []

/-- The place of the log file, or why it cannot be opened. -/
def openLog (disk : Disk) (name : String) : Except Accident (List String) :=
  match disk.path name with
  | .elsewhere text => .error (.logFile (.ofElsewhere text) text)
  | .below _ parts =>
    let parts := normalized parts
    let full := disk.fullName parts
    match disk.realParts (.below true parts) with
    | .error fault => .error (.logFile fault full)
    | .ok place =>
      match disk.follow (.below true place.dropLast) with
      | .error fault => .error (.logFile fault full)
      | .ok (_, .directory es) =>
        match place.getLast? with
        | none => .error (.logFile .isDirectory full)
        | some last =>
          match es.lookup last with
          | some (.directory _) => .error (.logFile .isDirectory full)
          | some _ => .ok place
          | none =>
            if PathFault.ofName last = .nameTooLong || PathFault.maxPath < full.utf8ByteSize then
              .error (.logFile .nameTooLong full)
            else .ok place
      | .ok _ => .error (.logFile .notDirectory full)

/-- The disk with a text added to the file at a place. -/
def appendText (disk : Disk) (place : List String) (text : String) : Disk :=
  let old := match disk.entry? place with
    | some (.file bytes) => bytes
    | _ => []
  { disk with
    entries := Entry.add (.file (old ++ Text.Utf8.encode text.toList)) place disk.entries }

/-! ## Checking -/

/-- A check up to its response: what to say in the end, and the log. -/
structure Checked where
  response : Response
  log : List Log.Record

/-- The path that is meant, home directories put in. -/
def meant (disk : Disk) (p : Path) : Except Accident Path :=
  match disk.expand? p with
  | some p => .ok p
  | none => .error .homeless

/-- A fault of a scan as the user is told of it: a path that is not there is named as it was
given. -/
def scanAccident (given : String) : Scan.Fault → Accident
  | .notFound _ => .scan (.notFound given)
  | fault => .scan fault

/-- Checks the files at a path with the settings that stand beside `config`. -/
def checkPath (readers : Readers) (disk : Disk) (path config : Path) :
    Except Accident Checked := do
  let source ← meant disk config
  let settings ← (Settings.load readers.settings disk source).mapError .settings
  let audit ← (Audit.ofSettings readers settings.analyzers settings.validators
    settings.ignoreClasses).mapError .discovery
  let target ← meant disk path
  let scanned ← (Scan.scan disk target settings.excludePaths).mapError
    (scanAccident (disk.shown path))
  return { response := audit.respond scanned.files, log := scanned.log ++ audit.log scanned.files }

def report (format : Format) (r : Response) : String :=
  match format with
  | .json => r.toJson.indented ++ "\n"
  | .text => Report.text r ++ "\n"

/-! ## Runs -/

/-- How a misuse or a question for help ends. -/
def Exit.result (disk : Disk) : Exit → Result
  | .help level => { ending := .exit 0, stdout := level.help, disk }
  | .misuse level message =>
    { ending := .exit 2, disk
      stderr := level.usage ++ level.title ++ ": error: " ++ message ++ "\n" }

/-- What the records of a run come to: the text on the console and the text in the log file. -/
def logTexts (time : String) (i : Invocation) (records : List Log.Record) : String × String :=
  let setup : Log.Setup := { verbose := i.verbose, quiet := i.quiet, file := i.logFile }
  let sinks := Log.Sinks.run time {} (.configure setup :: records.map .record)
  (sinks.streams.getLast?.getD "", (sinks.files.map (·.2)).getLast?.getD "")

/-- Does what an invocation asks for; `logged` adds a text to the log file. -/
def perform (readers : Readers) (time : String) (disk : Disk) (logged : String → Disk)
    (i : Invocation) : Result :=
  match i.request with
  | .serve host port => { ending := .exit 0, served := some (host, port), disk }
  | .check path config format failOn =>
    let target := disk.path path
    match checkPath readers disk target ((config.map disk.path).getD target) with
    | .error cause =>
      match cause.complaint? with
      | some complaint => { ending := .exit 1, stderr := complaint, disk }
      | none => { ending := .accident cause, disk }
    | .ok checked =>
      let (console, file) := logTexts time i checked.log
      { ending := .exit (if checked.response.fails failOn then 1 else 0)
        stdout := report format checked.response
        stderr := console
        disk := logged file }

/-- A whole run; `time` is the time that the log file notes.  See SPEC_FULL.md:224-228. -/
def run (readers : Readers) (time : String) (disk : Disk) (args : List String) : Result :=
  match parse args with
  | .error e => e.result disk
  | .ok i =>
    match i.logFile with
    | none => perform readers time disk (fun _ => disk) i
    | some name =>
      match openLog disk name with
      | .error cause => { ending := .accident cause, disk }
      | .ok place =>
        let opened := appendText disk place ""
        { perform readers time opened (appendText opened place) i with logPlace := some place }

end SiteAudit.Command
