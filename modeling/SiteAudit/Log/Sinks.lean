import SiteAudit.Log.Hierarchy
/-!
# Where log records go

All components share one logger.  It has a level, below which it looks at no record, and handlers,
each with a level of its own and an outlet that it writes to: a console stream or a log file.
Setting up detaches the handlers that are there and attaches new ones, with a new stream; a log
file that is named again is continued.

* `consoleLevel` is the least level shown on the console; the file takes everything from debug on.
* `Sinks.after` gives the sinks after one step, `Sinks.run` those after a sequence.
-/
namespace SiteAudit.Log

structure Setup where
  verbose : Bool := false
  quiet : Bool := false
  file : Option String := none
  deriving DecidableEq, Repr

/-- The least level shown on the console; asking for more wins over asking for less.  See
SPEC_FULL.md:243-244. -/
def consoleLevel (verbose quiet : Bool) : Level :=
  if verbose then .debug else if quiet then .warning else .info

def Setup.level (s : Setup) : Level := consoleLevel s.verbose s.quiet

/-- A record as the console shows it. -/
def consoleLine (r : Record) : String :=
  "[" ++ r.shownComponent ++ "] " ++ r.level.name ++ " " ++ r.message ++ "\n"

/-- A text with spaces behind it, up to a width. -/
def padRight (width : Nat) (s : String) : String :=
  s ++ String.ofList (List.replicate (width - s.length) ' ')

/-- A record as a log file holds it. -/
def fileLine (time : String) (r : Record) : String :=
  time ++ " " ++ padRight 7 r.level.name ++ " " ++ r.shownComponent ++ ": " ++ r.message ++ "\n"

/-! ## The shared logger -/

/-- Where a handler writes to. -/
inductive Outlet where
  | nowhere
  /-- The console stream of a set-up; set-ups are counted from zero. -/
  | stream (number : Nat)
  | file (name : String)
  deriving DecidableEq, Repr

/-- A handler at its logger: the least level that it takes, and its outlet. -/
structure Attached where
  level : Level
  outlet : Outlet
  deriving DecidableEq, Repr

inductive Handler where
  | silent
  | stream (level : Level)
  | file (level : Level)
  deriving DecidableEq, Repr

def Attached.handler (a : Attached) : Handler :=
  match a.outlet with
  | .nowhere => .silent
  | .stream _ => .stream a.level
  | .file _ => .file a.level

/-- The logger that all components share; it is made with no level and no handler. -/
structure Logger where
  /-- The least level that records must have to be looked at. -/
  level : Level := 0
  handlers : List Attached := []
  /-- Whether records go on to what is outside. -/
  propagate : Bool := true
  deriving DecidableEq, Repr

namespace Logger

def detach (l : Logger) (a : Attached) : Logger := { l with handlers := l.handlers.erase a }

def attach (l : Logger) (a : Attached) : Logger :=
  if l.handlers.contains a then l else { l with handlers := l.handlers ++ [a] }

/-- The logger after it is set up with the stream of the given number.  See SPEC_FULL.md:241-246. -/
def setUp (l : Logger) (setup : Setup) (number : Nat) : Logger :=
  let l := { l with propagate := false }
  let l := l.handlers.foldl detach l
  let l := l.attach ⟨setup.level, .stream number⟩
  match setup.file with
  | none => { l with level := setup.level }
  | some name => { l.attach ⟨.debug, .file name⟩ with level := .debug }

end Logger

/-! ## Sinks -/

/-- What happens to the log. -/
inductive Step where
  | configure (setup : Setup)
  | record (r : Record)
  deriving DecidableEq, Repr

/-- Where records go, and what went there so far. -/
structure Sinks where
  logger : Logger := {}
  /-- The names that loggers were asked for by. -/
  known : List String := []
  /-- The texts of the console streams, one for each set-up. -/
  streams : List String := []
  /-- The texts of the log files by name, in the order in which they were first opened. -/
  files : List (String × String) := []
  deriving DecidableEq, Repr

/-- Adds a text to the file of the given name, which is made if it is not there. -/
def appendTo (name text : String) : List (String × String) → List (String × String)
  | [] => [(name, text)]
  | (n, old) :: more =>
    if n = name then (n, old ++ text) :: more else (n, old) :: appendTo name text more

namespace Sinks

/-- The least level that records must have to be looked at. -/
def level (s : Sinks) : Level := s.logger.level

def handlers (s : Sinks) : List Handler := s.logger.handlers.map Attached.handler

/-- The sinks after the logger is set up: a new stream, and the log file if one is named. -/
def configure (s : Sinks) (setup : Setup) : Sinks :=
  { s with
    logger := s.logger.setUp setup s.streams.length
    streams := s.streams ++ [""]
    files := match setup.file with
      | some name => appendTo name "" s.files
      | none => s.files }

/-- The sinks after a handler got a record. -/
def emit (time : String) (r : Record) (s : Sinks) (a : Attached) : Sinks :=
  if r.level < a.level then s
  else match a.outlet with
    | .nowhere => s
    | .stream number => { s with streams := s.streams.modify number (· ++ consoleLine r) }
    | .file name => { s with files := appendTo name (fileLine time r) s.files }

def log (time : String) (s : Sinks) (r : Record) : Sinks :=
  if r.level < s.logger.level then s else s.logger.handlers.foldl (emit time r) s

/-- The sinks after a step; `time` is the time that log files note. -/
def after (time : String) (s : Sinks) : Step → Sinks
  | .configure setup => s.configure setup
  | .record r =>
    let s := { s with known := ask s.known r.name }
    if reaches s.known r.name then s.log time r else s

def run (time : String) (s : Sinks) (steps : List Step) : Sinks := steps.foldl (after time) s

end Sinks

end SiteAudit.Log
