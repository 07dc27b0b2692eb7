import SiteAudit.Batch

/-!
# How an audit merges what its components find

`Audit.issues` joins blocks of issues: one per file, then one per validator.
`Audit.loop` takes the same batch step by step: a component may raise its
failure, which is caught around that component alone and becomes an issue.

* `loop_eq_respond`: the loop never fails and ends with the response.
* `fileIssues_in_charge`, `fileIssues_unsupported`: the block of a file is that
  of the first analyzer which supports it.
* `fileIssues_revised`, `issues_revisedValidator`: other findings of one
  component on one file or batch change that one block.
* `tally_ofIssues`: the tally counts the severities of the list.
-/
namespace SiteAudit

/-! ## Tallies -/

theorem tally_foldl (issues : List Issue) (t : Tally) :
    issues.foldl (fun t i => t.add i.severity) t =
      { errors := t.errors + issues.countP (fun i => i.severity == .error)
        warnings := t.warnings + issues.countP (fun i => i.severity == .warning)
        infos := t.infos + issues.countP (fun i => i.severity == .info) } := by
  induction issues generalizing t with
  | nil => rfl
  | cons i more ih =>
    rw [List.foldl_cons, ih]
    cases hs : i.severity <;>
      simp [Tally.add, hs, Nat.add_assoc, Nat.add_comm]

theorem tally_ofIssues (issues : List Issue) :
    Tally.ofIssues issues =
      { errors := issues.countP (fun i => i.severity == .error)
        warnings := issues.countP (fun i => i.severity == .warning)
        infos := issues.countP (fun i => i.severity == .info) } := by
  simp [Tally.ofIssues, tally_foldl]

theorem tally_total (issues : List Issue) :
    (Tally.ofIssues issues).errors + (Tally.ofIssues issues).warnings +
      (Tally.ofIssues issues).infos = issues.length := by
  rw [tally_ofIssues]
  induction issues with
  | nil => rfl
  | cons i more ih =>
    simp only [List.countP_cons, List.length_cons] at ih ⊢
    cases i.severity <;> simp <;> omega

/-- The analyzer with other findings on one file. -/
def Analyzer.revised (a : Analyzer) (file : SourceFile) (found : Findings) : Analyzer :=
  { a with check := fun f => if f = file then found else a.check f }

/-- The validator with other findings on one batch. -/
def Validator.revised (v : Validator) (files : List SourceFile) (found : Findings) : Validator :=
  { v with check := fun fs => if fs = files then found else v.check fs }

namespace Audit

/-! ## The loop -/

/-- Adds what a component finds to the issues found so far. A failure is raised
and caught here, and becomes an issue of its own. -/
def guarded (path component : String) (found : List Issue)
    (check : Except Failure (List Issue)) : Except Failure (List Issue) :=
  tryCatch (do return found ++ (← check))
    (fun failure => return found ++ [internalError path component failure])

/-- Takes one file to its analyzer, if it has one. -/
def takeFile (audit : Audit) (found : List Issue) (file : SourceFile) :
    Except Failure (List Issue) :=
  match audit.analyzerFor file.path with
  | none => return found
  | some a => guarded file.path a.name found (a.check file).result

/-- Takes the whole batch to one validator. -/
def takeBatch (files : List SourceFile) (found : List Issue) (v : Validator) :
    Except Failure (List Issue) :=
  guarded "" v.name found (v.check files).result

/-- The audit of a batch, step by step. -/
def loop (audit : Audit) (files : List SourceFile) : Except Failure Response := do
  let found ← files.foldlM audit.takeFile []
  let found ← audit.validators.foldlM (takeBatch files) found
  return { lint := .ofIssues found }

theorem guarded_eq (path component : String) (found : List Issue) (f : Findings) :
    guarded path component found f.result = .ok (found ++ contributed path component f) := by
  unfold guarded contributed
  cases f.result <;> rfl

theorem takeFile_eq (audit : Audit) (found : List Issue) (file : SourceFile) :
    audit.takeFile found file = .ok (found ++ audit.fileIssues file) := by
  unfold takeFile fileIssues
  cases audit.analyzerFor file.path with
  | none => simp [pure, Except.pure]
  | some a => exact guarded_eq ..

theorem takeBatch_eq (files : List SourceFile) (found : List Issue) (v : Validator) :
    takeBatch files found v = .ok (found ++ batchIssues files v) := guarded_eq ..

theorem foldlM_blocks {α : Type} {take : List Issue → α → Except Failure (List Issue)}
    {block : α → List Issue} (h : ∀ found x, take found x = .ok (found ++ block x)) (xs : List α)
    (found : List Issue) : xs.foldlM take found = .ok (found ++ xs.flatMap block) := by
  induction xs generalizing found with
  | nil => simp [pure, Except.pure]
  | cons x more ih =>
    rw [List.foldlM_cons, h]
    simp only [bind, Except.bind]
    rw [ih, List.flatMap_cons, List.append_assoc]

/-- **The loop ends with the response**, whatever its components raise. -/
theorem loop_eq_respond (audit : Audit) (files : List SourceFile) :
    audit.loop files = .ok (audit.respond files) := by
  unfold loop
  rw [foldlM_blocks audit.takeFile_eq]
  simp only [bind, Except.bind]
  rw [foldlM_blocks (takeBatch_eq files)]
  rfl

/-! ## The block of a file -/

theorem fileIssues_unsupported {audit : Audit} {file : SourceFile}
    (h : ∀ a ∈ audit.analyzers, a.supports file.path = false) : audit.fileIssues file = [] := by
  have hnone : audit.analyzerFor file.path = none :=
    List.find?_eq_none.mpr (fun a ha => by simp [h a ha])
  simp [fileIssues, hnone]

/-- `a`, which comes behind `before`, is the analyzer for a path. -/
structure InCharge (before : List Analyzer) (a : Analyzer) (path : String) : Prop where
  passed : ∀ b ∈ before, b.supports path = false
  supports : a.supports path = true

theorem fileIssues_in_charge {before : List Analyzer} {a : Analyzer} {file : SourceFile}
    (h : InCharge before a file.path) (after : List Analyzer) (validators : List Validator) :
    fileIssues ⟨before ++ a :: after, validators⟩ file =
      contributed file.path a.name (a.check file) := by
  have hnone : before.find? (·.supports file.path) = none :=
    List.find?_eq_none.mpr (fun b hb => by simp [h.passed b hb])
  simp [fileIssues, analyzerFor, List.find?_append, hnone, h.supports]

/-! ## Other findings of one component -/

theorem fileIssues_revised {before : List Analyzer} {a : Analyzer} {file g : SourceFile}
    (h : g ≠ file ∨ ¬InCharge before a g.path) (found : Findings) (after : List Analyzer)
    (validators : List Validator) :
    fileIssues ⟨before ++ a.revised file found :: after, validators⟩ g =
      fileIssues ⟨before ++ a :: after, validators⟩ g := by
  have hsupports : (a.revised file found).supports g.path = a.supports g.path := rfl
  simp only [fileIssues, analyzerFor, List.find?_append, List.find?_cons, hsupports]
  cases hb : before.find? (·.supports g.path) with
  | some b => rfl
  | none =>
    cases ha : a.supports g.path with
    | false => rfl
    | true =>
      have hpassed : ∀ b ∈ before, b.supports g.path = false :=
        fun b hmem => by simpa using List.find?_eq_none.mp hb b hmem
      have hne : g ≠ file := h.resolve_right (fun hn => hn ⟨hpassed, ha⟩)
      simp [Analyzer.revised, hne]

/-- **A revised analyzer.** Where `a` is in charge of a file, other findings on
that file replace its block, each time the file occurs in the batch. -/
theorem issues_revisedAnalyzer {before : List Analyzer} {a : Analyzer} {file : SourceFile}
    (h : InCharge before a file.path) (found : Findings) (after : List Analyzer)
    (validators : List Validator) (files : List SourceFile) :
    issues ⟨before ++ a.revised file found :: after, validators⟩ files =
      files.flatMap (fun g => if g = file then contributed file.path a.name found
        else fileIssues ⟨before ++ a :: after, validators⟩ g) ++
      validators.flatMap (batchIssues files) := by
  have hblocks : fileIssues ⟨before ++ a.revised file found :: after, validators⟩ =
      fun g => if g = file then contributed file.path a.name found
        else fileIssues ⟨before ++ a :: after, validators⟩ g := by
    funext g
    by_cases hg : g = file
    · subst hg
      have hrev : InCharge before (a.revised g found) g.path := ⟨h.passed, h.supports⟩
      rw [fileIssues_in_charge hrev, if_pos rfl]
      simp [Analyzer.revised]
    · rw [fileIssues_revised (Or.inl hg), if_neg hg]
  rw [issues, hblocks]

/-- **A revised validator.** Other findings on a batch replace one block. -/
theorem issues_revisedValidator (analyzers : List Analyzer) (before after : List Validator)
    (v : Validator) (files : List SourceFile) (found : Findings) :
    issues ⟨analyzers, before ++ v.revised files found :: after⟩ files =
      files.flatMap (fileIssues ⟨analyzers, before ++ v :: after⟩) ++
        before.flatMap (batchIssues files) ++ contributed "" v.name found ++
        after.flatMap (batchIssues files) := by
  have hblock : batchIssues files (v.revised files found) = contributed "" v.name found := by
    simp [batchIssues, Validator.revised]
  simp only [issues, List.flatMap_append, List.flatMap_cons, hblock, List.append_assoc]
  rfl

/-! ## The whole audit -/

/-- **An audit is total, isolates failures and merges in order.** Its loop never
fails. The issues are the blocks of the files in order and then those of the
validators in order; each block is what the component gives, or one internal
error if it fails, and a file that no analyzer supports has none. A component
that fails on one file or on the batch changes its own block there and no
other. The tally counts the issues of each severity, and each issue once. -/
theorem audit_merges_in_order (audit : Audit) (files : List SourceFile) :
    audit.loop files = .ok (audit.respond files) ∧
    (audit.respond files).lint.issues =
      files.flatMap audit.fileIssues ++ audit.validators.flatMap (batchIssues files) ∧
    (∀ file, (∀ a ∈ audit.analyzers, a.supports file.path = false) →
      audit.fileIssues file = []) ∧
    (∀ file before a after, audit.analyzers = before ++ a :: after →
      InCharge before a file.path →
        audit.fileIssues file = contributed file.path a.name (a.check file)) ∧
    (∀ v, batchIssues files v = contributed "" v.name (v.check files)) ∧
    (∀ path component log,
      (∀ found, contributed path component ⟨.ok found, log⟩ = found) ∧
      ∀ failure, contributed path component ⟨.error failure, log⟩ = [{
        message := component ++ " failed: " ++ failure.text, path, line := 1, column := 0
        severity := .error, rule := "analyzer-internal-error", source := component }]) ∧
    (∀ before a after file failure log, audit.analyzers = before ++ a :: after →
      let failing : Audit := { audit with
        analyzers := before ++ a.revised file ⟨.error failure, log⟩ :: after }
      (InCharge before a file.path →
        (failing.respond files).lint.issues =
          files.flatMap (fun g => if g = file then [internalError file.path a.name failure]
            else audit.fileIssues g) ++ audit.validators.flatMap (batchIssues files)) ∧
      (¬InCharge before a file.path → failing.respond files = audit.respond files)) ∧
    (∀ before v after failure log, audit.validators = before ++ v :: after →
      let failing : Audit := { audit with
        validators := before ++ v.revised files ⟨.error failure, log⟩ :: after }
      (failing.respond files).lint.issues =
        files.flatMap audit.fileIssues ++ before.flatMap (batchIssues files) ++
          [internalError "" v.name failure] ++ after.flatMap (batchIssues files)) ∧
    (audit.respond files).lint.tally =
      { errors := (audit.respond files).lint.issues.countP (fun i => i.severity == .error)
        warnings := (audit.respond files).lint.issues.countP (fun i => i.severity == .warning)
        infos := (audit.respond files).lint.issues.countP (fun i => i.severity == .info) } ∧
    (audit.respond files).lint.tally.errors + (audit.respond files).lint.tally.warnings +
      (audit.respond files).lint.tally.infos = (audit.respond files).lint.issues.length := by
  obtain ⟨analyzers, validators⟩ := audit
  refine ⟨loop_eq_respond _ files, rfl, fun file h => fileIssues_unsupported h, ?_, fun _ => rfl,
    fun _ _ _ => ⟨fun _ => rfl, fun _ => rfl⟩, ?_, ?_, tally_ofIssues _, tally_total _⟩
  · rintro file before a after rfl h
    exact fileIssues_in_charge h after validators
  · rintro before a after file failure log rfl
    refine ⟨fun h => issues_revisedAnalyzer h ⟨.error failure, log⟩ after validators files, ?_⟩
    intro h
    have hsame : fileIssues ⟨before ++ a.revised file ⟨.error failure, log⟩ :: after, validators⟩ =
        fileIssues ⟨before ++ a :: after, validators⟩ := by
      funext g
      by_cases hg : g = file
      · exact fileIssues_revised (Or.inr (hg ▸ h)) ..
      · exact fileIssues_revised (Or.inl hg) ..
    simp only [respond, issues, hsame]
  · rintro before v after failure log rfl
    exact issues_revisedValidator analyzers before after v files ⟨.error failure, log⟩

end Audit

end SiteAudit
