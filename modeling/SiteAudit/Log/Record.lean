/-!
# Log records

A record has a level, the name of the component that wrote it, and a message.  Levels are
integers; five of them have names.  Components are named below one common root.
-/
namespace SiteAudit.Log

/-- The level of a record; higher is graver. -/
abbrev Level := Int

namespace Level

def debug : Level := 10
def info : Level := 20
def warning : Level := 30
def error : Level := 40
def critical : Level := 50

/-- The name of a level, or its number. -/
def name (l : Level) : String :=
  if l = debug then "DEBUG"
  else if l = info then "INFO"
  else if l = warning then "WARNING"
  else if l = error then "ERROR"
  else if l = critical then "CRITICAL"
  else "Level " ++ toString l

end Level

/-- The common root of all component names. -/
def root : String := "webcheck"

/-- The full name of a component; the empty name is the root itself.  See SPEC_FULL.md:240-241. -/
def fullName (component : String) : String :=
  if component = "" then root else root ++ "." ++ component

/-- One thing that a component has to say. -/
structure Record where
  level : Level
  /-- The component's name below the root, or nothing for the root. -/
  component : String
  message : String
  deriving DecidableEq, Repr

def Record.name (r : Record) : String := fullName r.component

/-- How a record's component is shown: without the root, except for the root itself. -/
def Record.shownComponent (r : Record) : String :=
  if r.component = "" then root else r.component

end SiteAudit.Log
