import SiteAudit.Proofs.Batch.Discovery
import SiteAudit.Proofs.Command.Flags
import SiteAudit.Proofs.Log.Sessions
import SiteAudit.Proofs.Report.Sections

/-!
# The verdict of a check

The same run feeds the report, the log and the exit status, and every component
logs while it works. What is logged is decided by the flags alone, and what is
reported by the project alone.

* `Passes.log_named`: who writes to the log of a check.
* `console_of_named`: what the console shows of such a log, for any flags.
* `Passes.verdict`: the end of one run, its report and its log.
* `runs_agree`: two runs over one project that ask for the same check end alike,
  whatever they want to see of the log.
* `verdict_of_project`: all of it for whole runs.
-/
namespace SiteAudit

/-! ## Who writes to the log -/

/-- The names under which a check writes to the log. -/
def logNames : List String :=
  [Scan.component, Audit.component, "analyzers.script", "analyzers.markup",
    "analyzers.stylesheet", "validators.style_markup"]

def AllNamed (records : List Log.Record) : Prop := ∀ r ∈ records, r.component ∈ logNames

theorem AllNamed.append {rs ts : List Log.Record} (hrs : AllNamed rs) (hts : AllNamed ts) :
    AllNamed (rs ++ ts) := fun r hr => (List.mem_append.mp hr).elim (hrs r) (hts r)

theorem AllNamed.flatMap {α : Type} {f : α → List Log.Record} {xs : List α}
    (h : ∀ x ∈ xs, AllNamed (f x)) : AllNamed (xs.flatMap f) := by
  intro r hr
  obtain ⟨x, hx, hr⟩ := List.mem_flatMap.mp hr
  exact h x hx r hr

theorem readAll_named (disk : Disk) (root : List String) (names : List Scan.Found) :
    AllNamed (Scan.readAll disk root names).log := by
  intro r hr
  obtain ⟨name, -, hname⟩ := List.mem_filterMap.mp hr
  unfold Scan.readOne at hname
  dsimp only at hname
  split at hname
  · cases hname
  · obtain rfl := Option.some.inj hname
    simp [logNames]

theorem scan_named {disk : Disk} {p : Path} {excludePaths : List String}
    {scanned : Scan.Outcome} (h : Scan.scan disk p excludePaths = .ok scanned) :
    AllNamed scanned.log := by
  unfold Scan.scan at h
  split at h
  · cases h
  · cases h
  · cases h
  · split at h
    · split at h <;> cases h
    · unfold Scan.scanDirectory at h
      split at h
      · cases h
      · obtain rfl := Except.ok.inj h
        exact (readAll_named disk _ _).append (by simp [AllNamed, logNames])
    · obtain rfl := Except.ok.inj h
      exact readAll_named disk _ _

theorem script_named (parse : Script.Parse) (file : SourceFile) :
    AllNamed (Script.checkWith parse file).log := by
  unfold Script.checkWith
  cases parse file.content <;> simp [Findings.ofIssues, AllNamed, logNames]

theorem markup_named (file : SourceFile) : AllNamed (Markup.check file).log := by
  unfold Markup.check Markup.checkReading
  cases (Markup.Reading.ofText file.content).failure <;>
    simp [Findings.ofIssues, AllNamed, logNames]

theorem stylesheet_named (file : SourceFile) : AllNamed (Stylesheet.check file).log := by
  simp [Stylesheet.check, Findings.ofIssues, AllNamed, logNames]

theorem reference_named (ignore : List Pattern.Compiled) (files : List SourceFile) :
    AllNamed ((referenceValidator ignore).check files).log := by
  intro r hr
  obtain hr | hr := List.mem_append.mp hr
  · obtain ⟨f, -, hf⟩ := List.mem_filterMap.mp hr
    obtain ⟨failure, -, rfl⟩ := Option.map_eq_some_iff.mp hf
    simp [logNames]
  · obtain rfl := List.mem_singleton.mp hr
    simp [logNames]

theorem analyzer_named {parse : Script.Parse} {a : Analyzer} (ha : a ∈ analyzersOver parse)
    (file : SourceFile) : AllNamed (a.check file).log := by
  simp only [analyzersOver, List.mem_cons, List.not_mem_nil, or_false] at ha
  obtain rfl | rfl | rfl := ha
  · exact script_named _ file
  · exact markup_named file
  · exact stylesheet_named file

theorem failureRecord_named (found : Findings) (message : String) :
    AllNamed (Audit.failureRecord found message) := by
  unfold Audit.failureRecord
  split <;> simp [AllNamed, logNames]

theorem audit_named {parse : Script.Parse} {audit : Audit}
    (hanalyzers : ∀ a ∈ audit.analyzers, a ∈ analyzersOver parse)
    (hvalidators : ∀ v ∈ audit.validators, ∃ ps, v = referenceValidator ps)
    (files : List SourceFile) : AllNamed (audit.log files) := by
  refine ((AllNamed.flatMap fun file _ => ?_).append (AllNamed.flatMap fun v hv => ?_)).append
    (by simp [AllNamed, logNames])
  · unfold Audit.fileLog
    split
    · simp [AllNamed, logNames]
    · rename_i a ha
      have hbuilt := hanalyzers a (List.mem_of_find?_eq_some ha)
      exact (analyzer_named hbuilt file).append (failureRecord_named _ _)
  · obtain ⟨ps, rfl⟩ := hvalidators v hv
    exact (reference_named ps files).append (failureRecord_named _ _)

/-! ## What the console shows -/

namespace Log

/-- The lines of records from a level on. -/
def consoleText (level : Level) (records : List Record) : String :=
  String.join ((records.filter (fun r => level ≤ r.level)).map consoleLine)

section OneSession

variable (time : String) (setup : Setup) (records : List Record)

theorem untilSetup_records :
    untilSetup (records.map (fun r => (time, .record r))) = records.map (time, ·) := by
  induction records with
  | nil => rfl
  | cons r more ih => simp only [List.map_cons, untilSetup, ih]

theorem sessions_records : sessions (records.map (fun r => (time, .record r))) = [] := by
  induction records with
  | nil => rfl
  | cons r more ih => simpa only [List.map_cons, sessions] using ih

theorem console_session :
    Session.console ⟨setup, records.map (time, ·)⟩ = consoleText setup.level records := by
  rw [console_eq, consoleText, List.filter_map, List.map_map]
  rfl

/-- A run that sets the log up once and then logs under names without a dot in
front has one stream, with the records from the level of the set-up on. -/
theorem streams_of_session (h : ∀ r ∈ records, r.component.toList.head? ≠ some '.') :
    (Sinks.run time {} (.configure setup :: records.map .record)).streams =
      [consoleText setup.level records] := by
  have hsteps : (Step.configure setup :: records.map .record).map (time, ·) =
      (time, .configure setup) :: records.map (fun r => (time, .record r)) := by
    rw [List.map_cons, List.map_map]
    rfl
  have hheard : heard [] ((time, .configure setup) :: records.map (fun r => (time, .record r))) =
      (time, .configure setup) :: records.map (fun r => (time, .record r)) := by
    refine heard_eq_self (fun t r hr => h r ?_) []
    simp only [List.mem_cons, List.mem_map, Prod.mk.injEq, reduceCtorEq, and_false,
      false_or, Step.record.injEq] at hr
    obtain ⟨_, hmem, -, rfl⟩ := hr
    exact hmem
  rw [run_eq_play, hsteps, (play_fresh _ rfl).1, hheard]
  simp [sessions, untilSetup_records, sessions_records, console_session]

end OneSession

end Log

namespace Command

theorem Passes.log_named {readers : Readers} {disk : Disk} {path config : Path}
    {settings : Settings} {audit : Audit} {scanned : Scan.Outcome}
    (h : Passes readers disk path config settings audit scanned) :
    AllNamed (scanned.log ++ audit.log scanned.files) := by
  obtain ⟨target, -, hscan⟩ := h.found
  obtain ⟨hanalyzers, hvalidators⟩ := ofSettings_components h.chosen
  exact (scan_named hscan).append (audit_named hanalyzers hvalidators _)

/-- **The console shows the records from the level of the flags on.** No name of
`logNames` begins with a dot, so the logger hears all of them. -/
theorem console_of_named {records : List Log.Record} (h : AllNamed records) (time : String)
    (i : Invocation) :
    (logTexts time i records).1 =
      Log.consoleText (Log.consoleLevel i.verbose i.quiet) records := by
  have hheads : ∀ c ∈ logNames, c.toList.head? ≠ some '.' := by decide +kernel
  have hstreams := Log.streams_of_session time ⟨i.verbose, i.quiet, i.logFile⟩ records
    fun r hr => hheads _ (h r hr)
  unfold logTexts
  simp only [hstreams]
  rfl

/-! ## One run -/

section Runs

variable {args : List String} {i : Invocation} {path : String} {config : Option String}
  {format : Format} {failOn : Threshold}

theorem Passes.verdict {readers : Readers} {disk : Disk} {settings : Settings} {audit : Audit}
    {scanned : Scan.Outcome} (hargs : AsksCheck args i path config format failOn)
    (h : Passes readers disk (disk.path path) (sourceOf disk path config) settings audit scanned)
    (time : String) :
    let response := audit.respond scanned.files
    let result := run readers time disk args
    (result.ending = .exit 1 ↔ ∃ issue ∈ response.lint.issues, failOn.covers issue.severity) ∧
    (result.ending = .exit 0 ↔ ¬∃ issue ∈ response.lint.issues, failOn.covers issue.severity) ∧
    result.stdout = report format response ∧
    result.stderr = Log.consoleText (Log.consoleLevel i.verbose i.quiet)
      (scanned.log ++ audit.log scanned.files) := by
  have hfails : (audit.respond scanned.files).fails failOn = true ↔
      ∃ issue ∈ (audit.respond scanned.files).lint.issues, failOn.covers issue.severity :=
    fails_iff _ failOn
  dsimp only
  rw [h.run_eq hargs time, ← hfails]
  refine ⟨?_, ?_, rfl, console_of_named h.log_named time i⟩
  · cases (audit.respond scanned.files).fails failOn <;> simp
  · cases (audit.respond scanned.files).fails failOn <;> simp

/-! ## Two runs -/

/-- Two runs end alike with the same report. -/
structure Result.SameVerdict (a b : Result) : Prop where
  ending : a.ending = b.ending
  stdout : a.stdout = b.stdout

theorem runs_agree {args' : List String} {i' : Invocation} {format' : Format}
    (hargs : AsksCheck args i path config format failOn)
    (hargs' : AsksCheck args' i' path config format' failOn) (readers : Readers)
    (time time' : String) (disk : Disk) :
    (run readers time' disk args').ending = (run readers time disk args).ending ∧
      (format' = format →
        (run readers time' disk args').stdout = (run readers time disk args).stdout) := by
  rcases checkPath_cases readers disk (disk.path path) (sourceOf disk path config) with
    ⟨settings, audit, scanned, h⟩ | ⟨cause, h⟩
  · rw [h.run_eq hargs time, h.run_eq hargs' time']
    exact ⟨rfl, fun hformat => by rw [hformat]⟩
  · rw [h.run_eq hargs time, h.run_eq hargs' time']
    exact ⟨rfl, fun _ => rfl⟩

theorem sameVerdict_of_along {args' : List String}
    (hargs : AsksCheck args i path config format failOn)
    (halong : Along SameRequest (parse args) (parse args')) (readers : Readers)
    (time time' : String) (disk : Disk) :
    (run readers time' disk args').SameVerdict (run readers time disk args) := by
  obtain ⟨i', hargs'⟩ := hargs.along halong
  obtain ⟨hending, hstdout⟩ := runs_agree hargs hargs' readers time time' disk
  exact ⟨hending, hstdout rfl⟩

/-- **The verdict depends on the project alone.** Where a check passes, the run
ends with status 1 if an issue of the response is at or above the threshold, and
with 0 otherwise; the standard output has the report, and the error output the
records from the level of the flags on. Where it fails with an accident that is
reported, nothing is written to the standard output and the status is 1. Any run
that asks for the same check ends alike, and with the same report if it is of the
same format. A flag for the volume can be put in front of the command, and taken
away from there or from right behind it, with no change to either. -/
theorem verdict_of_project (readers : Readers) (time : String) (disk : Disk)
    (hargs : AsksCheck args i path config format failOn) :
    let target := disk.path path
    let source := sourceOf disk path config
    let result := run readers time disk args
    (∀ settings audit scanned, Passes readers disk target source settings audit scanned →
      let response := audit.respond scanned.files
      (result.ending = .exit 1 ↔
        ∃ issue ∈ response.lint.issues, failOn.covers issue.severity) ∧
      (result.ending = .exit 0 ↔
        ¬∃ issue ∈ response.lint.issues, failOn.covers issue.severity) ∧
      result.stdout = report format response ∧
      result.stderr = Log.consoleText (Log.consoleLevel i.verbose i.quiet)
        (scanned.log ++ audit.log scanned.files)) ∧
    (∀ cause, Fails readers disk target source cause → cause.kind ≠ .other →
      result.ending = .exit 1 ∧ result.stdout = "") ∧
    (∀ time' args' i' format', AsksCheck args' i' path config format' failOn →
      let other := run readers time' disk args'
      other.ending = result.ending ∧ (format' = format → other.stdout = result.stdout)) ∧
    ∀ flag ∈ volumeFlags, ∀ time' rest,
      (args = "check" :: rest →
        (run readers time' disk (flag :: args)).SameVerdict result) ∧
      (args = flag :: "check" :: rest ∨ args = "check" :: flag :: rest →
        (run readers time' disk ("check" :: rest)).SameVerdict result) := by
  intro target source result
  refine ⟨fun _ _ _ h => h.verdict hargs time, fun _ h => (h.ending hargs time).2,
    fun time' _ _ _ hargs' => runs_agree hargs hargs' readers time time' disk,
    fun flag hflag time' rest => ⟨?_, ?_⟩⟩
  · rintro rfl
    exact sameVerdict_of_along hargs (flag_before_along hflag rest).1 readers time time' disk
  · rintro (rfl | rfl)
    · exact sameVerdict_of_along hargs (flag_before_along hflag rest).2 readers time time' disk
    · exact sameVerdict_of_along hargs (flag_behind_along hflag rest) readers time time' disk

end Runs

/-! ## A stylesheet with a block that is not closed -/

def sheetDisk : Disk := plainDisk [("a.css", .file [46, 97, 123])]

def sheetFile : SourceFile where
  path := "a.css"
  content := ".a\x7b"

theorem load_sheetDisk (read : Yaml.Read) :
    Settings.load read sheetDisk (.below false []) = .ok { root := "/site" } := by
  have hentry : sheetDisk.entry? [Settings.fileName] = none := rfl
  have hshort : sheetDisk.isTooLong (.below true [Settings.fileName]) = false := by
    have htop : sheetDisk.entry? [] = some (.directory sheetDisk.entries) := rfl
    have hlookup : sheetDisk.entries.lookup Settings.fileName = none := rfl
    have hname : PathFault.ofName Settings.fileName = .missing := by decide
    have hpath : (sheetDisk.shown (.below true [Settings.fileName])).utf8ByteSize ≤
        PathFault.maxPath := by decide +kernel
    simp [Disk.isTooLong, Nat.not_lt.mpr hpath, Disk.follow, Disk.followFrom, htop, hlookup, hname,
      (by decide : Settings.fileName ≠ "..")]
  have hname : sheetDisk.fullName [] = "/site" := rfl
  have hload := load_plainDisk _ read fun target h => by cases hentry.symm.trans h
  rw [← sheetDisk] at hload
  simp [hload, Settings.loadFrom, hentry, hshort, hname]

theorem found_sheetDisk (leadsToDirectory : List String → Bool) :
    Scan.Scanner.found ⟨[], supportedExtensions.map Text.lowerString⟩ leadsToDirectory
      sheetDisk.entries = [["a.css"]] := by
  have hwants : Scan.Scanner.wants ⟨[], supportedExtensions.map Text.lowerString⟩ [] "a.css" =
      true := by decide +kernel
  simp [Scan.Scanner.found, Scan.Scanner.filesHere, Scan.Scanner.below, sheetDisk, plainDisk,
    Scan.sortByName, hwants]

theorem scan_sheetDisk :
    ∃ log, Scan.scan sheetDisk (.below false []) [] = .ok ⟨[sheetFile], log⟩ := by
  have hplace : sheetDisk.realParts (.below false []) = .ok [] := realParts_plainDisk _
  have hentry : sheetDisk.entry? [] = some (.directory sheetDisk.entries) := rfl
  have hignore : Scan.ignoreLines sheetDisk [] = .ok [] := ignoreLines_plainDisk _ rfl
  have hsheet : sheetDisk.entry? ["a.css"] = some (.file [46, 97, 123]) := rfl
  have hsheetPlace : sheetDisk.realParts (.below true ["a.css"]) = .ok ["a.css"] :=
    realParts_name _ (by decide) (fun target h => by cases hsheet.symm.trans h) true
  have htext : textOfBytes [46, 97, 123] = .ok ".a\x7b".toList :=
    eq_ok_of_toOption (by decide +kernel)
  have hread := Disk.readText_resolved hsheetPlace hsheet
  have hexclusions : Scan.exclusionsOf [] = [] := rfl
  unfold Scan.scan Scan.scanDirectory
  simp [hplace, hentry, hignore, hexclusions, found_sheetDisk, Scan.readAll, Scan.readOne, hread,
    htext, sheetFile]

/-- The run ends with status 1, with a flag for the volume as without. -/
theorem unclosed_block_fails :
    (run .builtIn "" sheetDisk ["check"]).ending = .exit 1 ∧
      (run .builtIn "" sheetDisk ["-q", "check"]).ending = .exit 1 := by
  obtain ⟨hpassed, -, -, hflags⟩ := verdict_of_project .builtIn "" sheetDisk asksCheck_plain
  obtain ⟨log, hscan⟩ := scan_sheetDisk
  have hplace := expand?_plainDisk sheetDisk.entries
  have hpasses : Passes .builtIn sheetDisk (sheetDisk.path ".") (sourceOf sheetDisk "." none)
      { root := "/site" } ⟨builtInAnalyzers, [referenceValidator []]⟩ ⟨[sheetFile], log⟩ :=
    ⟨⟨_, hplace, load_sheetDisk _⟩, rfl, ⟨_, hplace, hscan⟩⟩
  have hissue : ∃ issue ∈ Audit.issues ⟨builtInAnalyzers, [referenceValidator []]⟩ [sheetFile],
      issue.severity = .error := by decide +kernel
  have hend := (hpassed _ _ _ hpasses).1.mpr hissue
  have hquiet := (hflags "-q" (by decide) "" []).1 rfl
  exact ⟨hend, hquiet.ending.trans hend⟩

end Command

end SiteAudit
