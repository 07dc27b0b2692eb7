import SiteAudit.Batch

/-!
# Choosing components by name

Settings name the components of an audit in any case, and give patterns to the
validator. A name that is not known ends the choice, and so does a pattern that
cannot be read, if there is a validator to read it.

* `discoverAnalyzers_cases`, `discoverValidators_cases`: all that can come of a
  choice.
* `compilePatterns_ok`, `compilePatterns_bad`: patterns are read in order, and
  the first bad one is reported (`FirstFault`).
* `ofSettings_components`: an audit has built-in components only.
-/
namespace SiteAudit

/-- Every name asked for is known, in any case. -/
def AllKnown (known : List String) (enabled : Option (List String)) : Prop :=
  ∀ names ∈ enabled, ∀ n ∈ names, Text.lowerString n ∈ known

/-- The name is asked for, in any case, or nothing is said. -/
def Asked (name : String) (enabled : Option (List String)) : Prop :=
  ∀ names ∈ enabled, name ∈ names.map Text.lowerString

def analyzerNames : List String := ["script", "markup", "stylesheet"]

theorem unknownNames_eq_nil {known asked : List String} :
    unknownNames known asked = [] ↔ ∀ n ∈ asked, n ∈ known := by
  rw [List.eq_nil_iff_forall_not_mem]
  simp [unknownNames]

theorem allKnown_some {known names : List String} :
    AllKnown known (some names) ↔ unknownNames known (names.map Text.lowerString) = [] := by
  rw [unknownNames_eq_nil]
  simp [AllKnown]

/-! ## Analyzers -/

theorem discoverAnalyzers_cases (parse : Script.Parse) (enabled : Option (List String)) :
    (AllKnown analyzerNames enabled ∧ ∃ as, discoverAnalyzers parse enabled = .ok as ∧
        ∀ a ∈ as, a ∈ analyzersOver parse) ∨
      (¬AllKnown analyzerNames enabled ∧ ∃ names,
        discoverAnalyzers parse enabled = .error (.unknownAnalyzers names)) := by
  cases enabled with
  | none => exact .inl ⟨by simp [AllKnown], analyzersOver parse, rfl, fun a ha => ha⟩
  | some names =>
    have hnames : (analyzersOver parse).map (·.name) = analyzerNames := rfl
    rw [allKnown_some, discoverAnalyzers, hnames]
    cases hu : unknownNames analyzerNames (names.map Text.lowerString) with
    | nil => exact .inl ⟨rfl, _, rfl, fun a ha => (List.mem_filter.mp ha).1⟩
    | cons n more => exact .inr ⟨by simp, n :: more, rfl⟩

/-! ## Patterns -/

def IsPattern (charNames : Pattern.CharNames) (p : String) : Prop :=
  ∃ c, Pattern.compile charNames p.toList = .ok c

section

variable {charNames : Pattern.CharNames}

theorem compilePatterns_cons {p : String} {c : Pattern.Compiled}
    (h : Pattern.compile charNames p.toList = .ok c) (more : List String) :
    compilePatterns charNames (p :: more) = (compilePatterns charNames more).map (c :: ·) := by
  unfold compilePatterns
  rw [List.mapM_cons, h]
  simp only [bind, Except.bind]
  cases List.mapM (m := Except DiscoveryFault) _ more <;> rfl

theorem compilePatterns_ok {patterns : List String} (h : ∀ p ∈ patterns, IsPattern charNames p) :
    ∃ ps, compilePatterns charNames patterns = .ok ps := by
  induction patterns with
  | nil => exact ⟨[], rfl⟩
  | cons p more ih =>
    obtain ⟨c, hc⟩ := h p (by simp)
    obtain ⟨ps, hps⟩ := ih fun q hq => h q (by simp [hq])
    exact ⟨c :: ps, by rw [compilePatterns_cons hc, hps]; rfl⟩

/-- The first of the patterns that is none, by its fault. -/
inductive FirstFault (charNames : Pattern.CharNames) : List String → Pattern.Fault → Prop
  | here {p : String} {fault : Pattern.Fault} (more : List String) :
      Pattern.compile charNames p.toList = .error fault → FirstFault charNames (p :: more) fault
  | there {p : String} {more : List String} {fault : Pattern.Fault} :
      IsPattern charNames p → FirstFault charNames more fault →
      FirstFault charNames (p :: more) fault

/-- The first bad pattern decides. -/
theorem compilePatterns_bad {patterns : List String} {fault : Pattern.Fault}
    (h : FirstFault charNames patterns fault) :
    compilePatterns charNames patterns = .error (.badPattern fault) := by
  induction h with
  | here more hp =>
    unfold compilePatterns
    rw [List.mapM_cons, hp]
    rfl
  | there hp _ ih =>
    obtain ⟨c, hc⟩ := hp
    rw [compilePatterns_cons hc, ih]
    rfl

theorem patterns_cases (charNames : Pattern.CharNames) (patterns : List String) :
    (∀ p ∈ patterns, IsPattern charNames p) ∨
      ∃ fault, FirstFault charNames patterns fault := by
  induction patterns with
  | nil => exact .inl (by simp)
  | cons p more ih =>
    cases hp : Pattern.compile charNames p.toList with
    | error fault => exact .inr ⟨fault, .here more hp⟩
    | ok c =>
      rcases ih with hmore | ⟨fault, hmore⟩
      · exact .inl (by simpa [IsPattern] using ⟨⟨c, hp⟩, hmore⟩)
      · exact .inr ⟨fault, .there ⟨c, hp⟩ hmore⟩

end

/-! ## Validators -/

theorem discoverValidators_cases (charNames : Pattern.CharNames)
    (enabled : Option (List String)) (ignore : List String) :
    (AllKnown builtInValidatorNames enabled ∧
        ((Asked "style-markup" enabled ∧ discoverValidators charNames enabled ignore =
            (compilePatterns charNames ignore).map (fun ps => [referenceValidator ps])) ∨
          (¬Asked "style-markup" enabled ∧
            discoverValidators charNames enabled ignore = .ok []))) ∨
      (¬AllKnown builtInValidatorNames enabled ∧ ∃ names,
        discoverValidators charNames enabled ignore = .error (.unknownValidators names)) := by
  cases enabled with
  | none => exact .inl ⟨by simp [AllKnown], .inl ⟨by simp [Asked], rfl⟩⟩
  | some names =>
    have hasked : Asked "style-markup" (some names) ↔
        (names.map Text.lowerString).contains "style-markup" = true := by simp [Asked]
    rw [allKnown_some, hasked, discoverValidators]
    cases hu : unknownNames builtInValidatorNames (names.map Text.lowerString) with
    | nil =>
      refine .inl ⟨rfl, ?_⟩
      by_cases hc : (names.map Text.lowerString).contains "style-markup" = true
      · exact .inl ⟨hc, if_pos hc⟩
      · exact .inr ⟨hc, if_neg hc⟩
    | cons n more => exact .inr ⟨by simp, n :: more, rfl⟩

/-! ## Audits -/

/-- **An audit has built-in components only.** -/
theorem ofSettings_components {readers : Readers} {analyzers validators : Option (List String)}
    {ignore : List String} {audit : Audit}
    (h : Audit.ofSettings readers analyzers validators ignore = .ok audit) :
    (∀ a ∈ audit.analyzers, a ∈ analyzersOver readers.script) ∧
      ∀ v ∈ audit.validators, ∃ ps, v = referenceValidator ps := by
  unfold Audit.ofSettings at h
  rcases discoverAnalyzers_cases readers.script analyzers with ⟨-, as, has, hbuilt⟩ | ⟨-, names, hnames⟩
  · rw [has] at h
    simp only [bind, Except.bind] at h
    cases hv : discoverValidators readers.charNames validators ignore with
    | error fault => simp [hv] at h
    | ok vs =>
      obtain rfl : (⟨as, vs⟩ : Audit) = audit := by simpa [hv, pure, Except.pure] using h
      refine ⟨hbuilt, fun v hmem => ?_⟩
      rcases discoverValidators_cases readers.charNames validators ignore with
        ⟨-, ⟨-, hcompiled⟩ | ⟨-, hnone⟩⟩ | ⟨-, names, hnames⟩
      · rw [hv] at hcompiled
        cases hp : compilePatterns readers.charNames ignore with
        | error fault => simp [hp, Except.map] at hcompiled
        | ok ps =>
          obtain rfl : vs = [referenceValidator ps] := by simpa [hp, Except.map] using hcompiled
          exact ⟨ps, List.mem_singleton.mp hmem⟩
      · obtain rfl : vs = [] := by simpa [hv] using hnone
        cases hmem
      · simp [hv] at hnames
  · simp [hnames, bind, Except.bind] at h

end SiteAudit
