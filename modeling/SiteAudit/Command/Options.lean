import SiteAudit.Command.Usage
import SiteAudit.Issue
import SiteAudit.Text.Integer
import SiteAudit.Text.Quoted
/-!
# Reading the command line

Arguments are options, with or without a value, and plain words.  A long option may be shortened
as far as it stays clear, short ones may stand together, and behind `--` every word is plain.  The
program's own options come before the command, those of the command behind it; where both give the
same setting the command's wins.  In all of this the conventions are those of argparse 3.11.2, see
SPEC_FULL.md:224-226.

* `classify` says what each argument is.
* `parse` reads all arguments into an `Invocation`, or ends with help or with a misuse.
-/
namespace SiteAudit.Command

open Text (isDecimal)

inductive Format where
  | text
  | json
  deriving DecidableEq, Repr

inductive Request where
  | check (path : String) (config : Option String) (format : Format) (failOn : Threshold)
  | serve (host : Option String) (port : Option Int)
  deriving DecidableEq, Repr

/-- The meaning of a command line. -/
structure Invocation where
  verbose : Bool
  quiet : Bool
  logFile : Option String
  request : Request
  deriving DecidableEq, Repr

/-- Ways to end without doing anything. -/
inductive Exit where
  | help (level : Level)
  | misuse (level : Level) (message : String)
  deriving DecidableEq, Repr

/-! ## Options -/

/-- What options set. -/
inductive Setting where
  | help
  | verbose
  | quiet
  | logFile
  | config
  | format
  | failOn
  | host
  | port
  deriving DecidableEq, Repr

namespace Setting

def names : Setting → List String
  | help => ["-h", "--help"]
  | verbose => ["-v", "--verbose"]
  | quiet => ["-q", "--quiet"]
  | logFile => ["--log-file"]
  | config => ["--config"]
  | format => ["--format"]
  | failOn => ["--fail-on"]
  | host => ["--host"]
  | port => ["--port"]

def takesValue : Setting → Bool
  | help | verbose | quiet => false
  | _ => true

/-- How messages name an option. -/
def shown (s : Setting) : String := "argument " ++ "/".intercalate s.names

end Setting

def Level.settings : Level → List Setting
  | .program => [.help, .verbose, .quiet, .logFile]
  | .check => [.help, .verbose, .quiet, .logFile, .config, .format, .failOn]
  | .serve => [.help, .verbose, .quiet, .logFile, .host, .port]

def Level.named (l : Level) : List (String × Setting) :=
  l.settings.flatMap (fun s => s.names.map (fun n => (n, s)))

/-! ## Arguments -/

/-- What an argument is. -/
inductive Kind where
  | plain
  | separator
  | option (setting : Setting) (name : String) (value : Option String)
  | unknown
  deriving DecidableEq, Repr

def splitValue (arg : String) : String × Option String :=
  let name := arg.toList.takeWhile (· != '=')
  if name.length = arg.length then (arg, none)
  else (String.ofList name, some (String.ofList (arg.toList.drop (name.length + 1))))

/-- Negative numbers are plain words. -/
def isNegativeNumber (arg : String) : Bool :=
  let s := match arg.toList.getLast? with
    | some '\n' => arg.toList.dropLast
    | _ => arg.toList
  match s with
  | '-' :: r =>
    (!r.isEmpty && r.all isDecimal) ||
      (match r.dropWhile isDecimal with
        | '.' :: d => !d.isEmpty && d.all isDecimal
        | _ => false)
  | _ => false

/-- The options that a shortened or joined argument may mean. -/
def candidates (l : Level) (arg : String) : List (Setting × String × Option String) :=
  if arg.startsWith "--" then
    let (lead, value) := splitValue arg
    l.named.filterMap (fun (name, s) =>
      if name.startsWith lead then some (s, name, value) else none)
  else
    let lead := String.ofList (arg.toList.take 2)
    l.named.filterMap (fun (name, s) =>
      if name = lead then some (s, name, some (String.ofList (arg.toList.drop 2)))
      else if name.startsWith arg then some (s, name, none)
      else none)

def classifyOne (l : Level) (arg : String) : Except Exit Kind :=
  if !arg.startsWith "-" then .ok .plain
  else match l.named.lookup arg with
    | some s => .ok (.option s arg none)
    | none =>
      if arg = "-" then .ok .plain
      else
        let (name, value) := splitValue arg
        match value, l.named.lookup name with
        | some v, some s => .ok (.option s name (some v))
        | _, _ =>
          match candidates l arg with
          | [(s, name, value)] => .ok (.option s name value)
          | [] => .ok (if isNegativeNumber arg || arg.contains ' ' then .plain else .unknown)
          | several =>
            .error (.misuse l ("ambiguous option: " ++ arg ++ " could match " ++
              ", ".intercalate (several.map (fun c => c.2.1))))

/-- What each argument is; behind the separator all of them are plain. -/
def classify (l : Level) : List String → Except Exit (List (String × Kind))
  | [] => .ok []
  | "--" :: more => .ok (("--", .separator) :: more.map (fun a => (a, .plain)))
  | arg :: more => do
    let kind ← classifyOne l arg
    return (arg, kind) :: (← classify l more)

/-! ## Values -/

/-- What the options given so far have set. -/
structure Given where
  verbose : Bool := false
  quiet : Bool := false
  logFile : Option String := none
  config : Option String := none
  format : Format := .text
  failOn : Threshold := .error
  host : Option String := some "127.0.0.1"
  port : Option Int := some 8000
  /-- Which of the two volume options this level has seen. -/
  seen : List Setting := []

/-- The text of a value; an empty one counts as none. -/
def nonEmpty (value : String) : Option String := if value = "" then none else some value

def formatWords : List (String × Format) := [("text", .text), ("json", .json)]

def thresholdWords : List (String × Threshold) :=
  [("error", .error), ("warning", .warning), ("never", .never)]

def choose {α : Type} (l : Level) (shown : String) (words : List (String × α)) (word : String) :
    Except Exit α :=
  match words.lookup word with
  | some a => .ok a
  | none =>
    .error (.misuse l (shown ++ ": invalid choice: " ++ Text.Quoted.quoteString word ++
      " (choose from " ++ ", ".intercalate (words.map (fun w => Text.Quoted.quoteString w.1)) ++
      ")"))

def refuseBoth (l : Level) (given : Given) (s other : Setting) : Except Exit Unit :=
  if given.seen.contains other then
    .error (.misuse l (s.shown ++ ": not allowed with " ++ other.shown))
  else .ok ()

/-- Applies an option with its value.  A separator as the value is dropped, and then nothing is set
where something else was. -/
def apply (l : Level) (given : Given) (s : Setting) (value : String) : Except Exit Given :=
  match s with
  | .help => .error (.help l)
  | .verbose => do
    refuseBoth l given .verbose .quiet
    return { given with verbose := true, seen := .verbose :: given.seen }
  | .quiet => do
    refuseBoth l given .quiet .verbose
    return { given with quiet := true, seen := .quiet :: given.seen }
  | .logFile => .ok { given with logFile := if value = "--" then none else nonEmpty value }
  | .config => .ok { given with config := if value = "--" then none else nonEmpty value }
  | .format =>
    if value = "--" then .ok { given with format := .text }
    else (choose l s.shown formatWords value).map (fun format => { given with format })
  | .failOn =>
    if value = "--" then .ok { given with failOn := .never }
    else (choose l s.shown thresholdWords value).map (fun failOn => { given with failOn })
  | .host => .ok { given with host := if value = "--" then none else some value }
  | .port =>
    if value = "--" then .ok { given with port := none }
    else
      match Text.integer? value.toList with
      | some port => .ok { given with port := some port }
      | none =>
        .error (.misuse l (s.shown ++ ": invalid int value: " ++ Text.Quoted.quoteString value))

/-- The options in one argument: short options without values may stand together.  `value` is what
follows the name in the argument. -/
def joined (l : Level) (s : Setting) (name : String) (value : Option String) :
    Nat → Except Exit (List (Setting × Option String))
  | 0 => .ok []
  | k + 1 =>
    match value with
    | none => .ok [(s, none)]
    | some v =>
      let ignored := Exit.misuse l (s.shown ++ ": ignored explicit argument " ++
        Text.Quoted.quoteString v)
      if s.takesValue then .ok [(s, some v)]
      else match v.toList with
        | [] => .error ignored
        | c :: rest =>
          if name.startsWith "--" then .error ignored
          else
            let next := String.ofList ['-', c]
            match l.named.lookup next with
            | none => .error ignored
            | some t => do
              let more ← joined l t next
                (if rest.isEmpty then none else some (String.ofList rest)) k
              return (s, none) :: more

/-! ## Reading a level -/

/-- What reading a level leaves: what was set, the words that found no use, and the plain words
that the level takes. -/
structure Outcome where
  given : Given
  extras : List String := []
  words : List String := []

/-- Applies the options of one argument; only the last may have a value. -/
def applyAll (l : Level) (given : Given) : List (Setting × Option String) → Except Exit Given
  | [] => .ok given
  | (s, value) :: more => do
    let given ← apply l given s (value.getD "")
    applyAll l given more

/-- Reads an option argument; `next` is the word behind it, if that is plain.  Gives what is set
and whether the word was its value. -/
def readOption (l : Level) (given : Given) (s : Setting) (name : String)
    (value next : Option String) :
    Except Exit (Given × Bool) := do
  let parts ← joined l s name value ((value.getD "").length + 1)
  match parts.getLast? with
  | some (last, none) =>
    if last.takesValue then
      match next with
      | none => throw (.misuse l (last.shown ++ ": expected one argument"))
      | some v =>
        let given ← applyAll l given (parts.dropLast ++ [(last, some v)])
        return (given, true)
    else
      let given ← applyAll l given parts
      return (given, false)
  | _ =>
    let given ← applyAll l given parts
    return (given, false)

def plainNext : List (String × Kind) → Option String
  | (w, .plain) :: _ => some w
  | _ => none

/-- Reads the arguments of a command.  `path` is the plain word that the command has taken, and
`takesPath` whether it takes one; all others are extras. -/
def readCommand (l : Level) (takesPath : Bool) (given : Given) (path : Option String)
    (extras : List String) :
    Nat → List (String × Kind) → Except Exit (Given × Option String × List String)
  | 0, _ => .ok (given, path, extras)
  | _ + 1, [] => .ok (given, path, extras)
  | k + 1, (arg, kind) :: more =>
    match kind with
    | .option s name value => do
      let (given, used) ← readOption l given s name value (plainNext more)
      readCommand l takesPath given path extras k (if used then more.drop 1 else more)
    | .unknown => readCommand l takesPath given path (extras ++ [arg]) k more
    | .plain =>
      if takesPath && path.isNone then
        -- a separator right behind the path is used up with it
        let more := match more with
          | (_, .separator) :: rest => rest
          | rest => rest
        readCommand l takesPath given (some arg) extras k more
      else readCommand l takesPath given path (extras ++ [arg]) k more
    | .separator =>
      if takesPath && path.isNone then
        match more with
        | (w, _) :: rest => readCommand l takesPath given (some w) extras k rest
        | [] => .ok (given, path, extras)
      else .ok (given, path, extras ++ arg :: more.map (·.1))

def command (l : Level) (given : Given) (args : List String) :
    Except Exit (Given × Request × List String) := do
  let items ← classify l args
  let (given, path, extras) ←
    readCommand l (l == .check) { given with seen := [] } none [] (items.length + 1) items
  let request := match l with
    | .serve => Request.serve given.host given.port
    | _ => Request.check (path.getD ".") given.config given.format given.failOn
  return (given, request, extras)

def commandWords : List (String × Level) := [("check", .check), ("serve", .serve)]

def finish (given : Given) (request : Option Request) (extras : List String) :
    Except Exit Invocation :=
  match request with
  | none => .error (.misuse .program "the following arguments are required: command")
  | some request =>
    if extras.isEmpty then
      .ok { verbose := given.verbose, quiet := given.quiet, logFile := given.logFile, request }
    else .error (.misuse .program ("unrecognized arguments: " ++ " ".intercalate extras))

/-- Reads the program's own arguments up to the command, which takes all the rest. -/
def readProgram (given : Given) (extras : List String) :
    Nat → List (String × Kind) → Except Exit Invocation
  | 0, _ => finish given none extras
  | _ + 1, [] => finish given none extras
  | k + 1, (arg, kind) :: more =>
    match kind with
    | .option s name value => do
      let (given, used) ← readOption .program given s name value (plainNext more)
      readProgram given extras k (if used then more.drop 1 else more)
    | .unknown => readProgram given (extras ++ [arg]) k more
    | .separator =>
      if more.isEmpty then finish given none (extras ++ [arg])
      else (choose .program "argument command" commandWords arg).bind (fun _ =>
        finish given none extras)
    | .plain => do
      let level ← choose .program "argument command" commandWords arg
      let (given, request, unused) ← command level given (more.map (·.1))
      finish given (some request) (extras ++ unused)

/-- Reads a command line. -/
def parse (args : List String) : Except Exit Invocation := do
  let items ← classify .program args
  readProgram {} [] (items.length + 1) items

end SiteAudit.Command
