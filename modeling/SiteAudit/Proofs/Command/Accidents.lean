import SiteAudit.Proofs.Batch.Discovery
import SiteAudit.Proofs.Command.Stages

/-!
# Accidents that end a run without a report

A run that checks something ends with a status, or with an accident that nobody
reports. `Unreported` lists those accidents. Among them is one that a settings
file with nothing else wrong in it can cause: a pattern of class names to ignore
that cannot be read.

* `Fails.unreported`: a check fails with no other accident that is not reported.
* `ofSettings_unknown`, `ofSettings_bad`, `ofSettings_ok`: what becomes of the
  names and patterns of settings.
* `settings_reported_but_patterns`: names that are not known are reported, paths
  to leave out are taken as they are, and a bad pattern ends the run.
-/
namespace SiteAudit

/-! ## Names and patterns of settings -/

/-- All components that settings name are known. -/
def Settings.NamesKnown (s : Settings) : Prop :=
  AllKnown ["script", "markup", "stylesheet"] s.analyzers ∧
    AllKnown ["style-markup"] s.validators

/-- The audit that settings ask for, or why there is none. -/
def Settings.audit (s : Settings) (readers : Readers) : Except DiscoveryFault Audit :=
  Audit.ofSettings readers s.analyzers s.validators s.ignoreClasses

section

variable {readers : Readers} {s : Settings}

theorem ofSettings_unknown (h : ¬s.NamesKnown) :
    (∃ names, s.audit readers = .error (.unknownAnalyzers names)) ∨
      ∃ names, s.audit readers = .error (.unknownValidators names) := by
  unfold Settings.audit Audit.ofSettings
  rcases discoverAnalyzers_cases readers.script s.analyzers with
    ⟨hknown, as, has, -⟩ | ⟨-, names, hnames⟩
  · rcases discoverValidators_cases readers.charNames s.validators s.ignoreClasses with
      ⟨hvalidators, -⟩ | ⟨-, names, hnames⟩
    · exact absurd ⟨hknown, hvalidators⟩ h
    · exact .inr ⟨names, by rw [has, hnames]; rfl⟩
  · exact .inl ⟨names, by rw [hnames]; rfl⟩

/-- With all names known, the audit hangs on the patterns alone, and only if
references are checked. -/
theorem ofSettings_known (readers : Readers) (h : s.NamesKnown) :
    ∃ as, (Asked "style-markup" s.validators ∧ s.audit readers =
        (compilePatterns readers.charNames s.ignoreClasses).map
          (fun ps => ⟨as, [referenceValidator ps]⟩)) ∨
      (¬Asked "style-markup" s.validators ∧ s.audit readers = .ok ⟨as, []⟩) := by
  unfold Settings.audit Audit.ofSettings
  rcases discoverAnalyzers_cases readers.script s.analyzers with ⟨-, as, has, -⟩ | ⟨hunknown, -⟩
  · refine ⟨as, ?_⟩
    rcases discoverValidators_cases readers.charNames s.validators s.ignoreClasses with
      ⟨-, ⟨hasked, hv⟩ | ⟨hasked, hv⟩⟩ | ⟨hunknown, -⟩
    · refine .inl ⟨hasked, ?_⟩
      rw [has, hv]
      cases compilePatterns readers.charNames s.ignoreClasses <;> rfl
    · exact .inr ⟨hasked, by rw [has, hv]; rfl⟩
    · exact absurd h.2 hunknown
  · exact absurd h.1 hunknown

theorem ofSettings_bad (h : s.NamesKnown) (hasked : Asked "style-markup" s.validators)
    {fault : Pattern.Fault} (hfault : FirstFault readers.charNames s.ignoreClasses fault) :
    s.audit readers = .error (.badPattern fault) := by
  obtain ⟨as, ⟨-, haudit⟩ | ⟨hnot, -⟩⟩ := ofSettings_known readers h
  · rw [haudit, compilePatterns_bad hfault]
    rfl
  · exact absurd hasked hnot

theorem ofSettings_ok (h : s.NamesKnown) (hpatterns : Asked "style-markup" s.validators →
      ∀ p ∈ s.ignoreClasses, IsPattern readers.charNames p) :
    ∃ audit, s.audit readers = .ok audit := by
  obtain ⟨as, ⟨hasked, haudit⟩ | ⟨-, haudit⟩⟩ := ofSettings_known readers h
  · obtain ⟨ps, hps⟩ := compilePatterns_ok (hpatterns hasked)
    exact ⟨⟨as, [referenceValidator ps]⟩, by rw [haudit, hps]; rfl⟩
  · exact ⟨_, haudit⟩

end

namespace Command

/-! ## What is not reported -/

/-- The accidents that a check may end with and that are not reported. -/
inductive Unreported : Accident → Prop
  | homeless : Unreported .homeless
  | settingsLoop (shown : String) : Unreported (.settings (.linkLoop shown))
  | settingsTooLong (shown : String) :
      Unreported (.settings (.unreadable (.path .nameTooLong shown)))
  | settingsDirectory (name : String) :
      Unreported (.settings (.unreadable (.path .isDirectory name)))
  | noTruth (word : String) : Unreported (.settings (.badValue (.noTruth word)))
  | emptyNumber : Unreported (.settings (.badValue .emptyNumber))
  | noTimestamp : Unreported (.settings (.badValue .noTimestamp))
  | tooLarge (message : String) : Unreported (.settings (.badValue (.tooLarge message)))
  | badPattern {fault : Pattern.Fault} : fault.cause.isValue = false →
      Unreported (.discovery (.badPattern fault))
  | scanLoop (shown : String) : Unreported (.scan (.linkLoop shown))
  | scanTooLong (shown : String) : Unreported (.scan (.tooLong shown))
  | ignoreFileTooLong (shown : String) :
      Unreported (.scan (.ignoreFile (.path .nameTooLong shown)))

theorem kind_badPattern (fault : Pattern.Fault) :
    (Accident.discovery (.badPattern fault)).kind =
      if fault.cause.isValue then .value else .other := rfl

theorem kind_scanAccident (given : String) (fault : Scan.Fault) :
    (scanAccident given fault).kind = (Accident.scan fault).kind := by
  cases fault <;> rfl

theorem Fails.unreported {readers : Readers} {disk : Disk} {path config : Path}
    {cause : Accident} (h : Fails readers disk path config cause) (hkind : cause.kind = .other) :
    Unreported cause := by
  cases h with
  | noSource => exact .homeless
  | noTarget => exact .homeless
  | @discovery source settings fault hsource hload hset =>
    cases fault with
    | badPattern fault =>
      rw [kind_badPattern] at hkind
      exact .badPattern (by simpa using hkind)
    | unknownAnalyzers names => cases hkind
    | unknownValidators names => cases hkind
  | settings hsource hload =>
    cases Settings.load_faults _ _ _ _ hload with
    | linkLoop shown => exact .settingsLoop shown
    | tooLong shown => exact .settingsTooLong shown
    | isDirectory name => exact .settingsDirectory name
    | encoding e => cases hkind
    | inText htext =>
      cases htext with
      | malformed name text fault => cases hkind
      | notMapping => cases hkind
      | badValue fault =>
        cases fault with
        | bad message => cases hkind
        | noTruth word => exact .noTruth word
        | emptyNumber => exact .emptyNumber
        | noTimestamp => exact .noTimestamp
        | tooLarge message => exact .tooLarge message
  | scan hsource hload hset htarget hscan =>
    cases (Scan.scan_fault hscan).1 with
    | notFound name => cases hkind
    | linkLoop name => exact .scanLoop name
    | tooLong name => exact .scanTooLong name
    | ignoreTooLong name => exact .ignoreFileTooLong name
    | ignoreEncoding e => cases hkind

/-! ## Whole runs -/

/-- A run that is refused with a complaint about the settings. -/
structure Result.Refused (r : Result) (message : String) : Prop where
  ending : r.ending = .exit 1
  stdout : r.stdout = ""
  stderr : r.stderr = "webcheck: invalid configuration: " ++ message ++ "\n"

section Runs

variable {args : List String} {i : Invocation} {path : String} {config : Option String}
  {format : Format} {failOn : Threshold} {readers : Readers} {disk : Disk}

theorem Fails.refused {cause : Accident} (hargs : AsksCheck args i path config format failOn)
    (h : Fails readers disk (disk.path path) (sourceOf disk path config) cause)
    (hkind : cause.kind = .configuration ∨ cause.kind = .value) (time : String) :
    (run readers time disk args).Refused cause.message := by
  rw [h.run_eq hargs time]
  rcases hkind with hkind | hkind <;> rw [hkind] <;> exact ⟨rfl, rfl, rfl⟩

section Loaded

variable {place : Path} {s : Settings}
variable (hargs : AsksCheck args i path config format failOn)
variable (hplace : disk.expand? (sourceOf disk path config) = some place)
variable (hload : Settings.load readers.settings disk place = .ok s)
include hargs hplace hload

/-- Names that are not known are reported, whatever else the settings say. -/
theorem refused_of_unknown (hnames : ¬s.NamesKnown) (time : String) :
    ∃ names,
      (run readers time disk args).Refused
        ("Unknown analyzers requested: " ++ ", ".intercalate names) ∨
      (run readers time disk args).Refused
        ("Unknown validators requested: " ++ ", ".intercalate names) := by
  rcases ofSettings_unknown hnames with ⟨names, haudit⟩ | ⟨names, haudit⟩
  · have hfails : Fails readers disk (disk.path path) _ _ := .discovery hplace hload haudit
    exact ⟨names, .inl (hfails.refused hargs (.inr rfl) time)⟩
  · have hfails : Fails readers disk (disk.path path) _ _ := .discovery hplace hload haudit
    exact ⟨names, .inr (hfails.refused hargs (.inr rfl) time)⟩

section BadPattern

variable (hnames : s.NamesKnown) (hasked : Asked "style-markup" s.validators)
variable {fault : Pattern.Fault} (hfault : FirstFault readers.charNames s.ignoreClasses fault)
include hnames hasked hfault

theorem refused_of_bad (hvalue : fault.cause.isValue = true) (time : String) :
    (run readers time disk args).Refused fault.message := by
  have hfails : Fails readers disk (disk.path path) _ _ :=
    .discovery hplace hload (ofSettings_bad hnames hasked hfault)
  exact hfails.refused hargs (.inr (by rw [kind_badPattern, if_pos hvalue])) time

theorem accident_of_bad (hvalue : fault.cause.isValue = false) (time : String) :
    run readers time disk args =
      { ending := .accident (.discovery (.badPattern fault)), disk } := by
  have hfails : Fails readers disk (disk.path path) _ _ :=
    .discovery hplace hload (ofSettings_bad hnames hasked hfault)
  rw [hfails.run_eq hargs, kind_badPattern, hvalue]
  rfl

end BadPattern

/-- With an audit, a run ends with a status, whatever is to be left out of the
scan: a fault of the scan would be there with nothing left out, too. -/
theorem exit_of_audit {there : Path} {audit : Audit} (haudit : s.audit readers = .ok audit)
    (hthere : disk.expand? (disk.path path) = some there)
    (hscanned : ∀ fault, Scan.scan disk there [] = .error fault →
      (Accident.scan fault).kind ≠ .other) (time : String) :
    ∃ status, (run readers time disk args).ending = .exit status := by
  cases hscan : Scan.scan disk there s.excludePaths with
  | ok scanned =>
    have hpasses : Passes readers disk (disk.path path) (sourceOf disk path config) s audit
        scanned := ⟨⟨place, hplace, hload⟩, haudit, ⟨there, hthere, hscan⟩⟩
    exact ⟨_, congrArg Result.ending (hpasses.run_eq hargs time)⟩
  | error fault =>
    have hfails : Fails readers disk (disk.path path) _ _ :=
      .scan hplace hload haudit hthere hscan
    refine ⟨1, ((hfails.ending hargs time).2 ?_).1⟩
    rw [kind_scanAccident]
    exact hscanned fault ((Scan.scan_fault hscan).2 [])

end Loaded

/-- **What settings say is reported or taken, patterns apart.** A run that checks
something ends with a status or with an accident of `Unreported`; whatever is
wrong with the settings as a document or a value is reported. Settings that can
be loaded may name anything as analyzers and validators: what is not known is
reported. They may give anything as paths to leave out. But if all names are
known and references are checked, the first pattern that cannot be read ends the
run with its fault, which is reported only if it is one of a value. So where the
target can be looked up, the run ends with a status exactly if no pattern that is
needed is bad in another way. -/
theorem settings_reported_but_patterns (readers : Readers) (time : String) (disk : Disk)
    (hargs : AsksCheck args i path config format failOn) :
    let target := disk.path path
    let source := sourceOf disk path config
    let result := run readers time disk args
    ((∃ status, result.ending = .exit status) ∨
      ∃ cause, result.ending = .accident cause ∧ Unreported cause) ∧
    (∀ cause, Fails readers disk target source cause →
      cause.kind = .configuration ∨ cause.kind = .value → result.Refused cause.message) ∧
    ∀ place s, disk.expand? source = some place →
        Settings.load readers.settings disk place = .ok s →
      (¬s.NamesKnown → ∃ names,
        result.Refused ("Unknown analyzers requested: " ++ ", ".intercalate names) ∨
        result.Refused ("Unknown validators requested: " ++ ", ".intercalate names)) ∧
      (s.NamesKnown → Asked "style-markup" s.validators →
        ∀ fault, FirstFault readers.charNames s.ignoreClasses fault →
          (fault.cause.isValue = true → result.Refused fault.message) ∧
          (fault.cause.isValue = false →
            result.ending = .accident (.discovery (.badPattern fault)))) ∧
      (∀ there, disk.expand? target = some there →
        (∀ fault, Scan.scan disk there [] = .error fault →
          (Accident.scan fault).kind ≠ .other) →
        ((∃ status, result.ending = .exit status) ↔
          (s.NamesKnown → Asked "style-markup" s.validators →
            ∀ fault, FirstFault readers.charNames s.ignoreClasses fault →
              fault.cause.isValue = true))) := by
  intro target source result
  refine ⟨?_, fun cause h hkind => h.refused hargs hkind time, fun place s hplace hload =>
    ⟨fun hnames => refused_of_unknown hargs hplace hload hnames time, ?_, ?_⟩⟩
  · rcases checkPath_cases readers disk target source with ⟨s, audit, scanned, h⟩ | ⟨cause, h⟩
    · exact .inl ⟨_, congrArg Result.ending (h.run_eq hargs time)⟩
    · by_cases hkind : cause.kind = .other
      · exact .inr ⟨cause, (h.ending hargs time).1 hkind, h.unreported hkind⟩
      · exact .inl ⟨1, ((h.ending hargs time).2 hkind).1⟩
  · intro hnames hasked fault hfault
    exact ⟨fun hvalue => refused_of_bad hargs hplace hload hnames hasked hfault hvalue time,
      fun hvalue => congrArg Result.ending
        (accident_of_bad hargs hplace hload hnames hasked hfault hvalue time)⟩
  · intro there hthere hscanned
    constructor
    · rintro ⟨status, hexit⟩ hnames hasked fault hfault
      refine (Bool.not_eq_false _).mp fun hvalue => ?_
      have hrun := accident_of_bad hargs hplace hload hnames hasked hfault hvalue time
      cases hexit.symm.trans (congrArg Result.ending hrun)
    · intro hvalues
      by_cases hnames : s.NamesKnown
      · by_cases hasked : Asked "style-markup" s.validators
        · rcases patterns_cases readers.charNames s.ignoreClasses with hall | ⟨fault, hfault⟩
          · obtain ⟨audit, haudit⟩ := ofSettings_ok hnames fun _ => hall
            exact exit_of_audit hargs hplace hload haudit hthere hscanned time
          · have hvalue := hvalues hnames hasked fault hfault
            exact ⟨1, (refused_of_bad hargs hplace hload hnames hasked hfault hvalue time).ending⟩
        · obtain ⟨audit, haudit⟩ := ofSettings_ok hnames fun h => absurd h hasked
          exact exit_of_audit hargs hplace hload haudit hthere hscanned time
      · obtain ⟨names, hrefused | hrefused⟩ := refused_of_unknown hargs hplace hload hnames time
        · exact ⟨1, hrefused.ending⟩
        · exact ⟨1, hrefused.ending⟩

end Runs

/-! ## Two settings files -/

/-- A directory with nothing in it but a settings file. -/
def settingsDisk (text : String) : Disk :=
  plainDisk [(Settings.fileName, .file (Text.Utf8.encode text.toList))]

section SettingsDisk

variable (text : String)

theorem load_settingsDisk (read : Yaml.Read) (chars : List Char)
    (h : (textOfBytes (Text.Utf8.encode text.toList)).toOption = some chars) :
    Settings.load read (settingsDisk text) (.below false []) =
      Settings.ofText read "/site" Settings.fileName chars := by
  have hentry : Disk.entry? (settingsDisk text) [Settings.fileName] =
      some (.file (Text.Utf8.encode text.toList)) := rfl
  have hlink : ∀ target, Disk.entry? (settingsDisk text) [Settings.fileName] ≠
      some (.link target) := fun target h => by cases hentry.symm.trans h
  have hplace : (settingsDisk text).realParts (.below false [Settings.fileName]) =
      .ok [Settings.fileName] := realParts_name _ (by decide) hlink false
  have hname : (settingsDisk text).fullName [] = "/site" := rfl
  have hload := load_plainDisk _ read hlink
  rw [← settingsDisk] at hload
  simp [hload, Settings.loadFrom, hentry, Disk.readText_resolved hplace hentry,
    eq_ok_of_toOption h, hname]

theorem scan_settingsDisk :
    ∃ scanned, Scan.scan (settingsDisk text) (.below false []) [] = .ok scanned := by
  have hplace : (settingsDisk text).realParts (.below false []) = .ok [] := realParts_plainDisk _
  have hentry : Disk.entry? (settingsDisk text) [] =
      some (.directory (settingsDisk text).entries) := rfl
  have hignore : Scan.ignoreLines (settingsDisk text) [] = .ok [] := ignoreLines_plainDisk _ rfl
  simp [Scan.scan, Scan.scanDirectory, hplace, hentry, hignore]

end SettingsDisk

/-- Settings with one pattern, which is not one: a set that does not end. -/
def badPatternText : String := "validators:\n  ignore_classes: '['\n"

def badPatternSettings : Settings where
  root := "/site"
  ignoreClasses := ["["]

def badPatternFault : Pattern.Fault where
  cause := .unterminatedSet
  position := some 0
  pattern := ['[']

/-- The fault of the pattern is not told as one of the settings: it ends the run,
and nothing is written. -/
theorem bad_pattern_unreported :
    badPatternFault.message = "unterminated character set at position 0" ∧
    run .builtIn "" (settingsDisk badPatternText) ["check"] =
      { ending := .accident (.discovery (.badPattern badPatternFault))
        disk := settingsDisk badPatternText } := by
  have hload : Settings.load Readers.builtIn.settings (settingsDisk badPatternText)
      (.below false []) = .ok badPatternSettings := by
    rw [load_settingsDisk _ _ badPatternText.toList (by decide +kernel)]
    exact eq_ok_of_toOption (by decide +kernel)
  have hnames : badPatternSettings.NamesKnown := by
    constructor <;> simp [badPatternSettings, AllKnown]
  have hasked : Asked "style-markup" badPatternSettings.validators := by
    simp [badPatternSettings, Asked]
  have hfault : FirstFault Readers.builtIn.charNames badPatternSettings.ignoreClasses
      badPatternFault := .here [] (eq_error_of_fault? (by decide +kernel))
  refine ⟨by decide +kernel, ?_⟩
  exact accident_of_bad asksCheck_plain (expand?_plainDisk _) hload hnames hasked hfault rfl ""

/-- Settings with the same pattern and no validator to read it. -/
def idlePatternText : String := "validators:\n  enabled: []\n  ignore_classes: '['\n"

theorem idle_pattern_passes :
    ∃ status, (run .builtIn "" (settingsDisk idlePatternText) ["check"]).ending =
      .exit status := by
  have hplace := expand?_plainDisk (settingsDisk idlePatternText).entries
  have hload : Settings.load Readers.builtIn.settings (settingsDisk idlePatternText)
      (.below false []) =
      .ok { root := "/site", validators := some [], ignoreClasses := ["["] } := by
    rw [load_settingsDisk _ _ idlePatternText.toList (by decide +kernel)]
    exact eq_ok_of_toOption (by decide +kernel)
  obtain ⟨-, -, hloaded⟩ :=
    settings_reported_but_patterns .builtIn "" (settingsDisk idlePatternText) asksCheck_plain
  obtain ⟨-, -, hstatus⟩ := hloaded _ _ hplace hload
  obtain ⟨scanned, hscan⟩ := scan_settingsDisk idlePatternText
  refine (hstatus _ hplace fun fault h => ?_).mpr fun _ hasked => ?_
  · cases hscan.symm.trans h
  · simp [Asked] at hasked

end Command

end SiteAudit
