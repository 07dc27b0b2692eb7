import SiteAudit.Command.Run
import SiteAudit.Proofs.Disk.Resolution
import SiteAudit.Proofs.Results

/-!
# The stages of a check

A check loads its settings, chooses its components and scans for files; each of
these may end it. Only then are the files checked, which always succeeds.

* `load_faults`, `scan_fault`: why settings cannot be loaded, and why a scan gives
  nothing. Where a settings file is found, it can be opened: a file that is
  missing is no fault of loading.
* `checkPath_cases`: a check passes all stages (`Passes`) or fails at the first
  that does not succeed (`Fails`).
* `Fails.complaint?_eq`: of these accidents, exactly those of three kinds are
  reported.
* `Passes.run_eq`, `Fails.run_eq`: what a run leaves behind in either case.
* `Fails.ending`: how it ends in the second one.
-/
namespace SiteAudit

/-! ## Faults of settings -/

namespace Settings

/-- Faults of the text of a settings file. -/
inductive Fault.InText : Fault → Prop
  | malformed (name : String) (text : List Char) (fault : Yaml.Fault) :
      InText (.malformed name text fault)
  | badValue (fault : Yaml.ValueFault) : InText (.badValue fault)
  | notMapping : InText .notMapping

theorem intText_faults (n : Int) : Faults Fault.InText (intText n) := by
  unfold intText
  split
  · exact .error (.badValue _)
  · exact .ok _

theorem itemText?_faults (v : Yaml.Value) : Faults Fault.InText (itemText? v) := by
  cases v with
  | int n => exact (intText_faults n).bind fun s => .ok (some s)
  | _ => exact .ok _

theorem textList_faults (d : Yaml.Document) (v : Option Yaml.Value) :
    Faults Fault.InText (textList d v) := by
  unfold textList
  split
  · exact .ok _
  · exact .ok _
  · split
    · exact .filterMapM itemText?_faults _
    · exact .ok _
  · exact .ok _

theorem enabledIn_faults (d : Yaml.Document) (part : Option Yaml.Value) :
    Faults Fault.InText (enabledIn d part) := by
  unfold enabledIn
  cases part.bind (d.get? · "enabled") with
  | none => exact .ok _
  | some v =>
    rw [Option.mapM_some]
    exact (textList_faults d (some v)).bind fun names => .ok (some names)

theorem ofDocument_faults (root : String) (d : Yaml.Document) :
    Faults Fault.InText (ofDocument root d) := by
  unfold ofDocument
  split
  · exact .ok _
  · split
    · refine (enabledIn_faults d _).bind fun analyzers => ?_
      refine (enabledIn_faults d _).bind fun validators => ?_
      refine (textList_faults d _).bind fun ignoreClasses => ?_
      exact (textList_faults d _).bind fun excludePaths => .ok _
    · exact .error .notMapping

theorem ofText_faults (read : Yaml.Read) (root name : String) (text : List Char) :
    Faults Fault.InText (ofText read root name text) := by
  unfold ofText
  split
  · exact .ok _
  · split
    · exact ofDocument_faults root _
    · exact .error (.badValue _)
    · exact .error (.malformed ..)

/-- Faults of loading: of the path, of what stands there, or of its text. -/
inductive Fault.Loading : Fault → Prop
  | linkLoop (shown : String) : Loading (.linkLoop shown)
  | tooLong (shown : String) : Loading (.unreadable (.path .nameTooLong shown))
  | isDirectory (name : String) : Loading (.unreadable (.path .isDirectory name))
  | encoding (fault : Text.Utf8.Fault) : Loading (.unreadable (.encoding fault))
  | inText {fault : Fault} : fault.InText → Loading fault

theorem textOfBytes_fault {bytes : List UInt8} {fault : ReadFault}
    (h : textOfBytes bytes = .error fault) : ∃ e, fault = .encoding e := by
  unfold textOfBytes at h
  split at h
  · cases h
  · obtain rfl := Except.error.inj h
    exact ⟨_, rfl⟩

theorem loadFrom_faults (read : Yaml.Read) {disk : Disk} {p : Path} {parts : List String}
    (hparts : disk.realParts p = .ok parts) :
    Faults Fault.Loading (loadFrom read disk parts) := by
  unfold loadFrom
  dsimp only
  split
  · split
    · exact .error (.tooLong _)
    · exact .ok _
  · rename_i e he
    rw [Disk.readText_resolved hparts he]
    cases e with
    | file bytes =>
      dsimp only
      cases htext : textOfBytes bytes with
      | error fault =>
        obtain ⟨e, rfl⟩ := textOfBytes_fault htext
        exact .error (.encoding e)
      | ok text => exact fun fault h => .inText (ofText_faults read _ _ text fault h)
    | directory es => exact .error (.isDirectory _)
    | link target => exact .error (.isDirectory _)

/-- **Why settings cannot be loaded.** Where a settings file is found it can be
opened: a file that is missing is no fault. -/
theorem load_faults (read : Yaml.Read) (disk : Disk) (p : Path) :
    Faults Fault.Loading (load read disk p) := by
  unfold load
  split
  · exact .error (.tooLong _)
  · dsimp only
    split
    · exact .error (.linkLoop _)
    · exact .error (.tooLong _)
    · exact .ok _
    · rename_i hparts
      exact loadFrom_faults read hparts

end Settings

/-! ## Faults of scans -/

namespace Scan

/-- Faults of scans: of the path, or of the ignore file there. -/
inductive Fault.Scanning : Fault → Prop
  | notFound (name : String) : Scanning (.notFound name)
  | linkLoop (name : String) : Scanning (.linkLoop name)
  | tooLong (name : String) : Scanning (.tooLong name)
  | ignoreTooLong (name : String) : Scanning (.ignoreFile (.path .nameTooLong name))
  | ignoreEncoding (fault : Text.Utf8.Fault) : Scanning (.ignoreFile (.encoding fault))

theorem ignoreLines_fault {disk : Disk} {root : List String} {fault : ReadFault}
    (h : ignoreLines disk root = .error fault) : (Fault.ignoreFile fault).Scanning := by
  unfold ignoreLines at h
  dsimp only at h
  split at h
  · rename_i bytes _
    cases htext : textOfBytes bytes with
    | ok text =>
      rw [htext] at h
      cases h
    | error e =>
      rw [htext] at h
      obtain rfl := Except.error.inj h
      obtain ⟨e, rfl⟩ := Settings.textOfBytes_fault htext
      exact .ignoreEncoding e
  · obtain rfl := Except.error.inj h
    exact .ignoreTooLong _
  · cases h

/-- **Why a scan gives nothing.** What is to be left out plays no part in it. -/
theorem scan_fault {disk : Disk} {p : Path} {excludePaths : List String} {fault : Fault}
    (h : scan disk p excludePaths = .error fault) :
    fault.Scanning ∧ ∀ others, scan disk p others = .error fault := by
  unfold scan at h ⊢
  split at h
  · obtain rfl := Except.error.inj h
    exact ⟨.linkLoop _, fun _ => rfl⟩
  · obtain rfl := Except.error.inj h
    exact ⟨.tooLong _, fun _ => rfl⟩
  · obtain rfl := Except.error.inj h
    exact ⟨.notFound _, fun _ => rfl⟩
  · split at h
    · refine ⟨?_, fun _ => h⟩
      split at h
      · obtain rfl := Except.error.inj h
        exact .tooLong _
      · obtain rfl := Except.error.inj h
        exact .notFound _
    · unfold scanDirectory at h ⊢
      split at h
      · rename_i f hlines
        obtain rfl := Except.error.inj h
        exact ⟨ignoreLines_fault hlines, fun _ => rfl⟩
      · cases h
    · cases h

end Scan

namespace Command

/-! ## Passing and failing -/

/-- A check passes all stages. -/
structure Passes (readers : Readers) (disk : Disk) (path config : Path) (settings : Settings)
    (audit : Audit) (scanned : Scan.Outcome) : Prop where
  loaded : ∃ source, disk.expand? config = some source ∧
    Settings.load readers.settings disk source = .ok settings
  chosen : Audit.ofSettings readers settings.analyzers settings.validators
    settings.ignoreClasses = .ok audit
  found : ∃ target, disk.expand? path = some target ∧
    Scan.scan disk target settings.excludePaths = .ok scanned

/-- A check fails at a stage. -/
inductive Fails (readers : Readers) (disk : Disk) (path config : Path) : Accident → Prop
  | noSource : disk.expand? config = none → Fails readers disk path config .homeless
  | settings {source : Path} {fault : Settings.Fault} : disk.expand? config = some source →
      Settings.load readers.settings disk source = .error fault →
      Fails readers disk path config (.settings fault)
  | discovery {source : Path} {settings : Settings} {fault : DiscoveryFault} :
      disk.expand? config = some source →
      Settings.load readers.settings disk source = .ok settings →
      Audit.ofSettings readers settings.analyzers settings.validators settings.ignoreClasses =
        .error fault →
      Fails readers disk path config (.discovery fault)
  | noTarget {source : Path} {settings : Settings} {audit : Audit} :
      disk.expand? config = some source →
      Settings.load readers.settings disk source = .ok settings →
      Audit.ofSettings readers settings.analyzers settings.validators settings.ignoreClasses =
        .ok audit →
      disk.expand? path = none → Fails readers disk path config .homeless
  | scan {source target : Path} {settings : Settings} {audit : Audit} {fault : Scan.Fault} :
      disk.expand? config = some source →
      Settings.load readers.settings disk source = .ok settings →
      Audit.ofSettings readers settings.analyzers settings.validators settings.ignoreClasses =
        .ok audit →
      disk.expand? path = some target →
      Scan.scan disk target settings.excludePaths = .error fault →
      Fails readers disk path config (scanAccident (disk.shown path) fault)

section Checks

variable {readers : Readers} {disk : Disk} {path config : Path}

theorem Passes.checkPath_eq {settings : Settings} {audit : Audit} {scanned : Scan.Outcome}
    (h : Passes readers disk path config settings audit scanned) :
    checkPath readers disk path config =
      .ok ⟨audit.respond scanned.files, scanned.log ++ audit.log scanned.files⟩ := by
  obtain ⟨⟨source, hsource, hsettings⟩, haudit, ⟨target, htarget, hscan⟩⟩ := h
  simp [checkPath, meant, hsource, hsettings, haudit, htarget, hscan, mapError_ok, bind,
    Except.bind, pure, Except.pure]

theorem Fails.checkPath_eq {cause : Accident} (h : Fails readers disk path config cause) :
    checkPath readers disk path config = .error cause := by
  cases h with
  | noSource hsource => simp [checkPath, meant, hsource, bind, Except.bind]
  | settings hsource hload =>
    simp [checkPath, meant, hsource, hload, mapError_error, bind, Except.bind]
  | discovery hsource hload hset =>
    simp [checkPath, meant, hsource, hload, hset, mapError_ok, mapError_error, bind, Except.bind]
  | noTarget hsource hload hset htarget =>
    simp [checkPath, meant, hsource, hload, hset, htarget, mapError_ok, bind, Except.bind]
  | scan hsource hload hset htarget hscan =>
    simp [checkPath, meant, hsource, hload, hset, htarget, hscan, mapError_ok, mapError_error,
      bind, Except.bind]

/-- **A check passes, or fails at a stage.** -/
theorem checkPath_cases (readers : Readers) (disk : Disk) (path config : Path) :
    (∃ settings audit scanned, Passes readers disk path config settings audit scanned) ∨
      ∃ cause, Fails readers disk path config cause := by
  cases hsource : disk.expand? config with
  | none => exact .inr ⟨_, .noSource hsource⟩
  | some source =>
    cases hload : Settings.load readers.settings disk source with
    | error fault => exact .inr ⟨_, .settings hsource hload⟩
    | ok settings =>
      cases hset : Audit.ofSettings readers settings.analyzers settings.validators
          settings.ignoreClasses with
      | error fault => exact .inr ⟨_, .discovery hsource hload hset⟩
      | ok audit =>
        cases htarget : disk.expand? path with
        | none => exact .inr ⟨_, .noTarget hsource hload hset htarget⟩
        | some target =>
          cases hscan : Scan.scan disk target settings.excludePaths with
          | error fault => exact .inr ⟨_, .scan hsource hload hset htarget hscan⟩
          | ok scanned =>
            exact .inl ⟨settings, audit, scanned, ⟨source, hsource, hload⟩, hset,
              ⟨target, htarget, hscan⟩⟩

end Checks

/-! ## Kinds of accidents -/

/-- What a user can make of an accident. -/
inductive Accident.Kind where
  /-- The settings file is not one. -/
  | configuration
  /-- A value, a name or a text is not one of its kind. -/
  | value
  /-- Nothing is at a path. -/
  | missing
  /-- Anything else. -/
  | other
  deriving DecidableEq, Repr

def ReadFault.accidentKind : ReadFault → Accident.Kind
  | .encoding _ => .value
  | .path .missing _ => .missing
  | .path .. => .other

def Accident.kind : Accident → Accident.Kind
  | .settings (.malformed ..) | .settings .notMapping => .configuration
  | .settings (.badValue (.bad _)) => .value
  | .settings (.badValue _) | .settings (.linkLoop _) => .other
  | .settings (.unreadable fault) | .scan (.ignoreFile fault) => ReadFault.accidentKind fault
  | .discovery (.unknownAnalyzers _) | .discovery (.unknownValidators _) => .value
  | .discovery (.badPattern fault) => if fault.cause.isValue then .value else .other
  | .scan (.notFound _) => .missing
  | .scan (.linkLoop _) | .scan (.tooLong _) => .other
  | .logFile fault _ => if fault = .missing then .missing else .other
  | .homeless => .other

/-- **What is reported.** The accidents of a check are reported if they are of
one of the three kinds that a user can do something about, and only then. -/
theorem Fails.complaint?_eq {readers : Readers} {disk : Disk} {path config : Path}
    {cause : Accident} (h : Fails readers disk path config cause) :
    cause.complaint? =
      match cause.kind with
      | .configuration | .value =>
        some ("webcheck: invalid configuration: " ++ cause.message ++ "\n")
      | .missing => some (cause.message ++ "\n")
      | .other => none := by
  cases h with
  | noSource => rfl
  | noTarget => rfl
  | @discovery source settings fault hsource hload hset =>
    cases fault with
    | badPattern fault =>
      unfold Accident.complaint? Accident.kind
      by_cases hvalue : fault.cause.isValue = true <;> simp [hvalue, Accident.message]
    | unknownAnalyzers names => rfl
    | unknownValidators names => rfl
  | settings hsource hload =>
    cases Settings.load_faults _ _ _ _ hload with
    | inText htext =>
      cases htext with
      | malformed name text fault => rfl
      | notMapping => rfl
      | badValue fault => cases fault <;> rfl
    | _ => rfl
  | scan hsource hload hset htarget hscan => cases (Scan.scan_fault hscan).1 <;> rfl

/-! ## Runs -/

/-- The arguments are accepted, and ask for a check without a log file. -/
structure AsksCheck (args : List String) (i : Invocation) (path : String)
    (config : Option String) (format : Format) (failOn : Threshold) : Prop where
  accepted : parse args = .ok i
  noLogFile : i.logFile = none
  request : i.request = .check path config format failOn

/-- The path that the settings are looked for at. -/
def sourceOf (disk : Disk) (path : String) (config : Option String) : Path :=
  (config.map disk.path).getD (disk.path path)

section Runs

variable {args : List String} {i : Invocation} {path : String} {config : Option String}
  {format : Format} {failOn : Threshold} {readers : Readers} {disk : Disk}

theorem Passes.run_eq {settings : Settings} {audit : Audit}
    {scanned : Scan.Outcome} (hargs : AsksCheck args i path config format failOn)
    (h : Passes readers disk (disk.path path) (sourceOf disk path config) settings audit scanned)
    (time : String) :
    run readers time disk args =
      { ending := .exit (if (audit.respond scanned.files).fails failOn then 1 else 0)
        stdout := report format (audit.respond scanned.files)
        stderr := (logTexts time i (scanned.log ++ audit.log scanned.files)).1
        disk } := by
  have hcheck := h.checkPath_eq
  unfold sourceOf at hcheck
  simp only [run, hargs.accepted, hargs.noLogFile, perform, hargs.request, hcheck]

theorem Fails.run_eq {cause : Accident} (hargs : AsksCheck args i path config format failOn)
    (h : Fails readers disk (disk.path path) (sourceOf disk path config) cause) (time : String) :
    run readers time disk args =
      match cause.kind with
      | .configuration | .value =>
        { ending := .exit 1, disk
          stderr := "webcheck: invalid configuration: " ++ cause.message ++ "\n" }
      | .missing => { ending := .exit 1, stderr := cause.message ++ "\n", disk }
      | .other => { ending := .accident cause, disk } := by
  have hcheck := h.checkPath_eq
  unfold sourceOf at hcheck
  simp only [run, hargs.accepted, hargs.noLogFile, perform, hargs.request, hcheck,
    h.complaint?_eq]
  cases cause.kind <;> rfl

theorem Fails.ending {cause : Accident} (hargs : AsksCheck args i path config format failOn)
    (h : Fails readers disk (disk.path path) (sourceOf disk path config) cause) (time : String) :
    let result := run readers time disk args
    (cause.kind = .other → result.ending = .accident cause) ∧
      (cause.kind ≠ .other → result.ending = .exit 1 ∧ result.stdout = "") := by
  dsimp only
  rw [h.run_eq hargs time]
  cases cause.kind <;> simp

end Runs

/-! ## A plain check of a site -/

theorem asksCheck_plain : AsksCheck ["check"] ⟨false, false, none, .check "." none .text .error⟩
    "." none .text .error where
  accepted := eq_ok_of_toOption (by decide +kernel)
  noLogFile := rfl
  request := rfl

/-- A disk with the given entries in one place. -/
def plainDisk (entries : List (String × Entry)) : Disk where
  top := "/site"
  entries

section Site

variable (entries : List (String × Entry))

theorem path_plainDisk : (plainDisk entries).path "." = .below false [] := by
  have htop : (plainDisk entries).top = "/site" := rfl
  have habsolute : ".".startsWith "/" = false := by decide +kernel
  have hparts : partsOf "." = [] := by decide +kernel
  simp [Disk.path, htop, habsolute, hparts]

theorem expand?_plainDisk :
    (plainDisk entries).expand? ((plainDisk entries).path ".") = some (.below false []) := by
  rw [path_plainDisk]
  rfl

theorem filePath_plainDisk :
    Settings.filePath (plainDisk entries) (.below false []) = .below false [Settings.fileName] := by
  have hdirectory : (plainDisk entries).isDirectoryAt (.below false []) = true := by
    simp [Disk.isDirectoryAt, Disk.follow, Disk.followFrom, Disk.entry?, Disk.entryIn?,
      Entry.isDirectory]
  simp [Settings.filePath, hdirectory]

theorem realParts_plainDisk : (plainDisk entries).realParts (.below false []) = .ok [] := by
  simp [Disk.realParts, Disk.realFrom]

theorem realParts_name {name : String} (hname : name ≠ "..")
    (hlink : ∀ target, Disk.entry? (plainDisk entries) [name] ≠ some (.link target))
    (absolute : Bool) :
    (plainDisk entries).realParts (.below absolute [name]) = .ok [name] := by
  simp only [Disk.realParts, Disk.realFrom, hname, if_false, List.nil_append]

theorem load_plainDisk (read : Yaml.Read)
    (hlink : ∀ target, Disk.entry? (plainDisk entries) [Settings.fileName] ≠ some (.link target)) :
    Settings.load read (plainDisk entries) (.below false []) =
      Settings.loadFrom read (plainDisk entries) [Settings.fileName] := by
  have hshort : (plainDisk entries).isTooLong (.below false []) = false := by
    have hshown : Disk.shown (plainDisk entries) (.below false []) = "." := rfl
    have hpath : ¬PathFault.maxPath < ".".utf8ByteSize := by decide
    simp [Disk.isTooLong, hshown, hpath, Disk.follow, Disk.followFrom, Disk.entry?, Disk.entryIn?]
  simp [Settings.load, hshort, filePath_plainDisk,
    realParts_name entries (by decide : Settings.fileName ≠ "..") hlink]

theorem ignoreLines_plainDisk (h : entries.lookup Scan.ignoreFileName = none) :
    Scan.ignoreLines (plainDisk entries) [] = .ok [] := by
  have hentry : Disk.entry? (plainDisk entries) [] = some (.directory entries) := rfl
  have hname : PathFault.ofName Scan.ignoreFileName = .missing := by decide
  simp [Scan.ignoreLines, Disk.follow, Disk.followFrom, hentry, h, hname,
    (by decide : Scan.ignoreFileName ≠ "..")]

end Site

end Command

end SiteAudit
