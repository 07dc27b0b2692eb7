import SiteAudit.Log.Sinks
import SiteAudit.Proofs.Text.Leads

/-!
# What the sinks hold after a run

A run sets the log up again and again and logs records in between. Each set-up
begins a session, which lasts until the next one. The logger's level and its
handlers are rewritten by every set-up; the log files outlive it.

* `setUp_eq`: what a set-up makes of the logger does not depend on what it was.
* `log_under`: what the logger of a session does with a record.
* `play_under`, `play_fresh`: the streams and files of a run, by its sessions.
* `reaches_of_head`: a name that does not begin with a dot hangs below the
  root, whatever other names are known. A name that does may hang nowhere
  (`dotted_name_unheard`).
* `sinks_hold_sessions`: all of it for whole runs.
-/
namespace SiteAudit.Log

/-! ## Names -/

/-- The name of a logger as lines show it: without the root and the dot behind
it, where these stand in front. -/
def componentOf (name : String) : String :=
  ((Text.after? (root ++ ".").toList name.toList).map String.ofList).getD name

theorem componentOf_name (r : Record) : componentOf r.name = r.shownComponent := by
  unfold componentOf Record.name fullName Record.shownComponent
  split
  · decide +kernel
  · have hname : (root ++ "." ++ r.component).toList =
        (root ++ ".").toList ++ r.component.toList := String.toList_append
    rw [hname, Text.after?_eq_some_iff.mpr rfl]
    simp

/-- The climb from a name below the root. `part` is what stands behind the
root's dot, read from its end; it does not begin with a dot, so the character
that a cut passes over is never that dot. -/
theorem reachesFrom_part (known : List String) (part : List Char)
    (hdot : part.getLast? ≠ some '.') :
    ∀ skip, (skip = true → part ≠ []) →
      reachesFrom known skip (part ++ '.' :: root.toList.reverse) = true := by
  induction part with
  | nil =>
    intro skip hskip
    cases skip with
    | true => exact absurd rfl (hskip rfl)
    | false => simp [reachesFrom]
  | cons c more ih =>
    have hmore : more.getLast? ≠ some '.' := by
      intro h
      apply hdot
      rw [List.getLast?_cons, h]
      rfl
    intro skip _
    cases skip with
    | true => exact ih hmore false (by simp)
    | false =>
      simp only [List.cons_append, reachesFrom]
      split
      · rename_i hc
        split
        · rfl
        · refine ih hmore _ (fun _ => ?_)
          rintro rfl
          exact hdot (by simp [hc])
      · exact ih hmore false (by simp)

theorem reaches_of_head {r : Record} (h : r.component.toList.head? ≠ some '.')
    (known : List String) : reaches known r.name = true := by
  unfold reaches Record.name fullName
  split
  · simp
  · have hname : (root ++ "." ++ r.component).toList.reverse =
        r.component.toList.reverse ++ '.' :: root.toList.reverse := by
      simp
    rw [hname, reachesFrom_part known _ (by simpa using h) false (by simp)]
    simp

/-! ## The logger of a session -/

/-- The logger as a set-up leaves it. -/
def Setup.logger (setup : Setup) (number : Nat) : Logger where
  level := if setup.file.isSome then .debug else setup.level
  handlers := ⟨setup.level, .stream number⟩ ::
    (setup.file.map (fun name => (⟨.debug, .file name⟩ : Attached))).toList
  propagate := false

theorem foldl_detach (handlers : List Attached) (l : Logger) (h : l.handlers = handlers) :
    handlers.foldl Logger.detach l = { l with handlers := [] } := by
  induction handlers generalizing l with
  | nil => cases l; simp_all
  | cons a more ih =>
    rw [List.foldl_cons, ih (l.detach a) (by simp [Logger.detach, h])]
    rfl

/-- **A set-up starts anew.** No handler of before stays, and the level is that
of the set-up alone. -/
theorem setUp_eq (l : Logger) (setup : Setup) (number : Nat) :
    l.setUp setup number = setup.logger number := by
  have hclear := foldl_detach l.handlers { l with propagate := false } rfl
  unfold Logger.setUp Setup.logger
  simp only [hclear]
  cases setup.file <;> simp [Logger.attach]

theorem debug_le_level (setup : Setup) : Level.debug ≤ setup.level := by
  unfold Setup.level consoleLevel
  cases setup.verbose <;> cases setup.quiet <;> decide

theorem level_logger_le (setup : Setup) (number : Nat) :
    (setup.logger number).level ≤ setup.level := by
  unfold Setup.logger
  dsimp only
  split
  · exact debug_le_level setup
  · exact Int.le_refl _

/-- What a record adds to the console. -/
def Setup.shown (setup : Setup) (r : Record) : String :=
  if setup.level ≤ r.level then consoleLine r else ""

/-- What a record adds to the log file of the given name. -/
def Setup.filed (setup : Setup) (name time : String) (r : Record) : List String :=
  if setup.file = some name ∧ Level.debug ≤ r.level then [fileLine time r] else []

/-- A text added to a file, which may not be there yet. -/
def addText (old : Option String) (text : String) : Option String := some (old.getD "" ++ text)

theorem lookup_appendTo (name n text : String) (files : List (String × String)) :
    (appendTo name text files).lookup n =
      if name = n then addText (files.lookup n) text else files.lookup n := by
  induction files with
  | nil =>
    by_cases hn : n = name
    · simp [appendTo, addText, hn]
    · simp [appendTo, List.lookup_cons, beq_false_of_ne hn, Ne.symm hn]
  | cons f more ih =>
    obtain ⟨m, old⟩ := f
    by_cases hm : m = name
    · subst hm
      by_cases hn : n = m
      · simp [appendTo, addText, hn]
      · simp [appendTo, List.lookup_cons, beq_false_of_ne hn, Ne.symm hn]
    · by_cases hn : n = m
      · subst hn
        simp [appendTo, hm, Ne.symm hm]
      · simp [appendTo, hm, List.lookup_cons, beq_false_of_ne hn, ih]

/-- `s` is in a session: its logger is that of `setup`, `earlier` are the
streams of the sessions before, and `text` is on the stream of this one. -/
structure Sinks.Under (s : Sinks) (setup : Setup) (earlier : List String) (text : String) :
    Prop where
  logger : s.logger = setup.logger earlier.length
  streams : s.streams = earlier ++ [text]

theorem configure_under (s : Sinks) (setup : Setup) :
    (s.configure setup).Under setup s.streams "" :=
  ⟨setUp_eq s.logger setup s.streams.length, rfl⟩

theorem modify_last (earlier : List String) (text : String) (f : String → String) :
    (earlier ++ [text]).modify earlier.length f = earlier ++ [f text] := by
  induction earlier with
  | nil => rfl
  | cons e more ih => simp [ih]

theorem emit_console {s : Sinks} {setup : Setup} {earlier : List String} {text : String}
    (h : s.Under setup earlier text) (time : String) (r : Record) :
    s.emit time r ⟨setup.level, .stream earlier.length⟩ =
      { s with streams := earlier ++ [text ++ setup.shown r] } := by
  unfold Sinks.emit Setup.shown
  by_cases hr : r.level < setup.level
  · simp [hr, Int.not_le.mpr hr, ← h.streams]
  · simp [hr, Int.not_lt.mp hr, h.streams, modify_last]

/-- **One record of a session.** It goes to the last stream from the level of
the set-up on, and to the file of the set-up from debug on. The level of the
logger holds nothing back that a handler would take. -/
theorem log_under {s : Sinks} {setup : Setup} {earlier : List String} {text : String}
    (h : s.Under setup earlier text) (time : String) (r : Record) :
    (s.log time r).Under setup earlier (text ++ setup.shown r) ∧
      (s.log time r).known = s.known ∧
      ∀ name, (s.log time r).files.lookup name =
        (setup.filed name time r).foldl addText (s.files.lookup name) := by
  by_cases hlow : r.level < (setup.logger earlier.length).level
  · -- below the level of the logger no handler takes the record either
    have hskip : s.log time r = s := by rw [Sinks.log, h.logger, if_pos hlow]
    have hshown : setup.shown r = "" :=
      if_neg (Int.not_le.mpr (Int.lt_of_lt_of_le hlow (level_logger_le ..)))
    have hfiled : ∀ name, setup.filed name time r = [] := by
      intro name
      refine if_neg ?_
      rintro ⟨hfile, hlevel⟩
      simp only [Setup.logger, hfile, Option.isSome_some, if_true] at hlow
      exact Int.not_le.mpr hlow hlevel
    simpa [hskip, hshown, hfiled] using h
  · have hlog : s.log time r = (setup.file.map (fun name => (⟨.debug, .file name⟩ : Attached))
        ).toList.foldl (Sinks.emit time r)
          { s with streams := earlier ++ [text ++ setup.shown r] } := by
      rw [← emit_console h time r, Sinks.log, h.logger, if_neg hlow]
      rfl
    rw [hlog]
    cases hfile : setup.file with
    | none => exact ⟨⟨h.logger, rfl⟩, rfl, fun name => by simp [Setup.filed, hfile]⟩
    | some f =>
      have hlevel : Level.debug ≤ r.level := by simpa [Setup.logger, hfile] using hlow
      have hemit : ∀ t : Sinks, t.emit time r ⟨.debug, .file f⟩ =
          { t with files := appendTo f (fileLine time r) t.files } :=
        fun t => if_neg (Int.not_lt.mpr hlevel)
      rw [Option.map_some, Option.toList_some, List.foldl_cons, List.foldl_nil, hemit]
      refine ⟨⟨h.logger, rfl⟩, rfl, fun name => ?_⟩
      by_cases hf : f = name <;> simp [lookup_appendTo, Setup.filed, hfile, hlevel, hf]

/-! ## Sessions -/

/-- The sinks after steps that are each taken at a time. -/
def Sinks.play (s : Sinks) (steps : List (String × Step)) : Sinks :=
  steps.foldl (fun s x => s.after x.1 x.2) s

theorem run_eq_play (time : String) (s : Sinks) (steps : List Step) :
    s.run time steps = s.play (steps.map (time, ·)) := by
  simp [Sinks.run, Sinks.play, List.foldl_map]

/-- A set-up and the records logged under it, with their times. -/
structure Session where
  setup : Setup
  records : List (String × Record)
  deriving DecidableEq, Repr

/-- The records logged before the next set-up. -/
def untilSetup : List (String × Step) → List (String × Record)
  | [] => []
  | (_, .configure _) :: _ => []
  | (time, .record r) :: more => (time, r) :: untilSetup more

/-- The sessions of a run; what is logged before the first set-up is in none. -/
def sessions : List (String × Step) → List Session
  | [] => []
  | (_, .configure setup) :: more => ⟨setup, untilSetup more⟩ :: sessions more
  | (_, .record _) :: more => sessions more

/-- The steps without the records whose names do not hang below the root at
the time they are logged; `known` are the names known at the start. -/
def heard (known : List String) : List (String × Step) → List (String × Step)
  | [] => []
  | (time, .configure setup) :: more => (time, .configure setup) :: heard known more
  | (time, .record r) :: more =>
    if reaches (ask known r.name) r.name then
      (time, .record r) :: heard (ask known r.name) more
    else heard (ask known r.name) more

theorem heard_eq_self {steps : List (String × Step)}
    (h : ∀ time r, (time, Step.record r) ∈ steps → r.component.toList.head? ≠ some '.')
    (known : List String) : heard known steps = steps := by
  induction steps generalizing known with
  | nil => rfl
  | cons x more ih =>
    have hmore := ih fun time r hm => h time r (List.mem_cons_of_mem _ hm)
    obtain ⟨time, step⟩ := x
    cases step with
    | configure setup => simp [heard, hmore]
    | record r =>
      have hr := reaches_of_head (h time r (List.mem_cons_self ..)) (ask known r.name)
      simp [heard, hr, hmore]

/-- The text of the console stream of a session. -/
def Session.console (s : Session) : String :=
  String.join (s.records.map (fun e => s.setup.shown e.2))

/-- What records of a session add to the log file of the given name. -/
def Setup.lines (setup : Setup) (name : String) (records : List (String × Record)) :
    List String :=
  records.flatMap (fun e => setup.filed name e.1 e.2)

/-- What a session adds to the log file of the given name. A file that is named
is there from the start, so an empty text comes first. -/
def Session.pieces (name : String) (s : Session) : List String :=
  if s.setup.file = some name then "" :: s.setup.lines name s.records else []

theorem configure_files (s : Sinks) (setup : Setup) (name : String)
    (records : List (String × Record)) :
    (setup.lines name records).foldl addText ((s.configure setup).files.lookup name) =
      (Session.pieces name ⟨setup, records⟩).foldl addText (s.files.lookup name) := by
  cases hfile : setup.file with
  | none =>
    have hlines : setup.lines name records = [] := by simp [Setup.lines, Setup.filed, hfile]
    simp [Session.pieces, Sinks.configure, hfile, hlines]
  | some f =>
    by_cases hf : f = name
    · simp [Session.pieces, Sinks.configure, hfile, hf, lookup_appendTo]
    · have hlines : setup.lines name records = [] := by
        simp [Setup.lines, Setup.filed, hfile, hf]
      simp [Session.pieces, Sinks.configure, hfile, hf, lookup_appendTo, hlines]

/-- **A run from within a session.** The stream of the session gets the records
up to the next set-up, every later session has a stream of its own, and the
files grow by what the sessions add. -/
theorem play_under (steps : List (String × Step)) {s : Sinks} {setup : Setup}
    {earlier : List String} {text : String} (h : s.Under setup earlier text) :
    let rest := heard s.known steps
    (s.play steps).streams = earlier ++
        (text ++ Session.console ⟨setup, untilSetup rest⟩) :: (sessions rest).map Session.console ∧
      ∀ name, (s.play steps).files.lookup name =
        (setup.lines name (untilSetup rest) ++
          (sessions rest).flatMap (Session.pieces name)).foldl addText (s.files.lookup name) := by
  induction steps generalizing s setup earlier text with
  | nil => simp [heard, untilSetup, sessions, Session.console, Setup.lines, Sinks.play, h.streams]
  | cons x more ih =>
    obtain ⟨time, step⟩ := x
    cases step with
    | configure next =>
      obtain ⟨hstreams, hfiles⟩ := ih (configure_under s next)
      have hplay : s.play ((time, .configure next) :: more) = (s.configure next).play more := rfl
      have hknown : (s.configure next).known = s.known := rfl
      rw [hknown] at hstreams hfiles
      rw [hplay]
      refine ⟨?_, fun name => ?_⟩
      · simp [hstreams, h.streams, heard, untilSetup, sessions, Session.console]
      · rw [hfiles, List.foldl_append, configure_files, ← List.foldl_append]
        simp [heard, untilSetup, sessions, Setup.lines]
    | record r =>
      have hask : Sinks.Under { s with known := ask s.known r.name } setup earlier text :=
        ⟨h.logger, h.streams⟩
      cases hr : reaches (ask s.known r.name) r.name with
      | false =>
        have hplay : s.play ((time, .record r) :: more) =
            Sinks.play { s with known := ask s.known r.name } more := by
          simp [Sinks.play, Sinks.after, hr]
        simpa [hplay, heard, hr] using ih hask
      | true =>
        obtain ⟨hunder, hknown, hfile⟩ := log_under hask time r
        have hplay : s.play ((time, .record r) :: more) =
            (Sinks.log time { s with known := ask s.known r.name } r).play more := by
          simp [Sinks.play, Sinks.after, hr]
        obtain ⟨hstreams, hfiles⟩ := ih hunder
        rw [hknown] at hstreams hfiles
        rw [hplay]
        refine ⟨?_, fun name => ?_⟩
        · simp [hstreams, heard, hr, untilSetup, sessions, Session.console, String.append_assoc]
        · rw [hfiles, hfile]
          simp [heard, hr, untilSetup, sessions, Setup.lines]

/-- **A run from a new logger.** It has no handler, so nothing happens until the first
set-up. -/
theorem play_fresh (steps : List (String × Step)) {s : Sinks} (h : s.logger = {}) :
    (s.play steps).streams =
        s.streams ++ (sessions (heard s.known steps)).map Session.console ∧
      ∀ name, (s.play steps).files.lookup name =
        ((sessions (heard s.known steps)).flatMap (Session.pieces name)).foldl addText
          (s.files.lookup name) := by
  induction steps generalizing s with
  | nil => simp [heard, sessions, Sinks.play]
  | cons x more ih =>
    obtain ⟨time, step⟩ := x
    cases step with
    | configure setup =>
      obtain ⟨hstreams, hfiles⟩ := play_under more (configure_under s setup)
      have hplay : s.play ((time, .configure setup) :: more) = (s.configure setup).play more := rfl
      have hknown : (s.configure setup).known = s.known := rfl
      rw [hknown] at hstreams hfiles
      rw [hplay]
      refine ⟨by simp [hstreams, heard, sessions], fun name => ?_⟩
      rw [hfiles, List.foldl_append, configure_files, ← List.foldl_append]
      simp [heard, sessions]
    | record r =>
      have hplay : s.play ((time, .record r) :: more) =
          Sinks.play { s with known := ask s.known r.name } more := by
        simp [Sinks.play, Sinks.after, Sinks.log, h]
      rw [hplay]
      have hrest : sessions (heard s.known ((time, .record r) :: more)) =
          sessions (heard (ask s.known r.name) more) := by
        simp only [heard]
        split <;> rfl
      rw [hrest]
      exact ih h

/-! ## Whole runs -/

theorem setups_heard (known : List String) (steps : List (String × Step)) :
    (sessions (heard known steps)).map Session.setup = (sessions steps).map Session.setup := by
  induction steps generalizing known with
  | nil => rfl
  | cons x more ih =>
    obtain ⟨time, step⟩ := x
    cases step with
    | configure setup => simp [heard, sessions, ih]
    | record r =>
      simp only [heard]
      split <;> simp [sessions, ih]

theorem console_eq (s : Session) :
    s.console = String.join ((s.records.filter (fun e => s.setup.level ≤ e.2.level)).map
      (fun e => consoleLine e.2)) := by
  unfold Session.console
  induction s.records with
  | nil => rfl
  | cons e more ih =>
    rw [List.map_cons, String.join_cons, ih, Setup.shown, List.filter_cons]
    by_cases he : s.setup.level ≤ e.2.level
    · rw [if_pos he, if_pos (decide_eq_true he), List.map_cons, String.join_cons]
    · rw [if_neg he, if_neg (by simpa using he), String.empty_append]

theorem foldl_addText (texts : List String) (old : Option String) :
    texts.foldl addText old =
      if texts = [] then old else some (old.getD "" ++ String.join texts) := by
  induction texts generalizing old with
  | nil => rfl
  | cons t more ih =>
    rw [List.foldl_cons, ih]
    by_cases hmore : more = [] <;> simp [hmore, addText, String.append_assoc]

/-- The records of the sessions that name a file. -/
def recordsFor (name : String) (ss : List Session) : List (String × Record) :=
  (ss.filter (fun s => s.setup.file == some name)).flatMap Session.records

theorem lines_of_named {setup : Setup} {name : String} (h : setup.file = some name)
    (records : List (String × Record)) :
    setup.lines name records =
      (records.filter (fun e => 10 ≤ e.2.level)).map (fun e => fileLine e.1 e.2) := by
  unfold Setup.lines
  induction records with
  | nil => rfl
  | cons e more ih =>
    by_cases he : (10 : Level) ≤ e.2.level <;> simp_all [Setup.filed, Level.debug]

/-- The pieces that sessions add to a file are the lines of their records, and
there are none exactly when no session names it. -/
theorem join_pieces (name : String) (ss : List Session) :
    (ss.flatMap (Session.pieces name) = [] ↔ ∀ s ∈ ss, s.setup.file ≠ some name) ∧
      String.join (ss.flatMap (Session.pieces name)) =
        String.join (((recordsFor name ss).filter (fun e => 10 ≤ e.2.level)).map
          (fun e => fileLine e.1 e.2)) := by
  induction ss with
  | nil => simp [recordsFor]
  | cons s more ih =>
    by_cases hs : s.setup.file = some name
    · simp_all [Session.pieces, recordsFor, lines_of_named hs, String.join_append]
    · simp_all [Session.pieces, recordsFor]

theorem lookup_pieces (name : String) (ss : List Session) :
    (ss.flatMap (Session.pieces name)).foldl addText none =
      if ∃ s ∈ ss, s.setup.file = some name then
        some (String.join (((recordsFor name ss).filter (fun e => 10 ≤ e.2.level)).map
          (fun e => fileLine e.1 e.2)))
      else none := by
  obtain ⟨hnil, hjoin⟩ := join_pieces name ss
  rw [foldl_addText, hjoin]
  by_cases hn : ∃ s ∈ ss, s.setup.file = some name
  · obtain ⟨s, hs, hfile⟩ := hn
    rw [if_neg (fun h => hnil.mp h s hs hfile), if_pos ⟨s, hs, hfile⟩]
    simp
  · rw [if_pos (hnil.mpr fun s hs hfile => hn ⟨s, hs, hfile⟩), if_neg hn]

/-- **Sinks over whole runs.** Take any sequence of set-ups and records, each at
its time, and of the records those whose names hang below the root: all of
them, if no component begins with a dot. Each set-up has a stream, with the lines
of the records logged until the next set-up and of at least the level that its
flags ask for. A log file has the lines of the records of level 10 and above
logged under the set-ups that name it, whatever they show on the console. And
every set-up leaves the logger with one handler for its own stream, one more for
its file if it names one, and nothing passed on to the outside. -/
theorem sinks_hold_sessions (steps : List (String × Step)) :
    let final := Sinks.play {} steps
    let held := sessions (heard [] steps)
    (∀ time plain, steps = plain.map (time, ·) → Sinks.run time {} plain = final) ∧
    ((∀ time r, (time, Step.record r) ∈ steps → r.component.toList.head? ≠ some '.') →
      held = sessions steps) ∧
    held.map Session.setup = (sessions steps).map Session.setup ∧
    final.streams = held.map (fun s => String.join
      ((s.records.filter (fun e => s.setup.level ≤ e.2.level)).map (fun e => consoleLine e.2))) ∧
    (∀ name, final.files.lookup name =
      if ∃ s ∈ held, s.setup.file = some name then
        some (String.join ((((held.filter (fun s => s.setup.file == some name)).flatMap
          Session.records).filter (fun e => 10 ≤ e.2.level)).map (fun e => fileLine e.1 e.2)))
      else none) ∧
    (∀ before time setup after, steps = before ++ (time, .configure setup) :: after →
      let s := Sinks.play {} (before ++ [(time, .configure setup)])
      s.logger.handlers = ⟨setup.level, .stream (sessions before).length⟩ ::
        (match setup.file with
         | some name => [⟨10, .file name⟩]
         | none => []) ∧
      s.logger.propagate = false) ∧
    (∀ setup : Setup, setup.level =
      if setup.verbose then 10 else if setup.quiet then 30 else 20) ∧
    (∀ r, consoleLine r =
      "[" ++ componentOf r.name ++ "] " ++ r.level.name ++ " " ++ r.message ++ "\n") := by
  intro final held
  obtain ⟨hstreams, hfiles⟩ := play_fresh steps (s := {}) rfl
  refine ⟨?_, ?_, setups_heard [] steps, ?_, ?_, ?_, fun _ => rfl, ?_⟩
  · rintro time plain rfl
    exact run_eq_play time {} plain
  · intro h
    exact congrArg sessions (heard_eq_self h [])
  · rw [show final.streams = _ from hstreams]
    simp [held, ← console_eq]
  · intro name
    rw [show final.files.lookup name = _ from hfiles name]
    exact lookup_pieces name held
  · intro before time setup after _ s
    have hearlier : (Sinks.play {} before).streams.length = (sessions before).length := by
      have hsetups := congrArg List.length (setups_heard [] before)
      rw [(play_fresh before (s := {}) rfl).1]
      simpa using hsetups
    have hlogger : s.logger = setup.logger (sessions before).length := by
      rw [← hearlier]
      simp only [s, Sinks.play, List.foldl_append]
      exact (configure_under _ setup).logger
    rw [hlogger]
    refine ⟨?_, rfl⟩
    cases hfile : setup.file <;> simp [Setup.logger, hfile, Level.debug]
  · intro r
    rw [componentOf_name]
    rfl

/-- A record logged under a name with a dot in front is on no stream, though it
is grave enough for the console. -/
theorem dotted_name_unheard :
    (Sinks.run "" {} [.configure {}, .record ⟨40, ".x", "m"⟩]).streams = [""] ∧
      (sessions [("", .configure {}), ("", .record ⟨40, ".x", "m"⟩)]).map Session.console =
        ["[.x] ERROR m\n"] := by
  decide +kernel

end SiteAudit.Log
