import SiteAudit.Proofs.Command.Flags
import SiteAudit.Proofs.Command.Lines

/-!
# Flags that forbid each other

The flag for more and the one for less forbid each other at a level: among the
program's own options, and among those of the command. What one level has seen is
forgotten at the next one.

* `applyAll_excludes`: no options that are accepted hold both.
* `applyAll_loud`, `applyAll_mark`, `applyAll_logTo`: what one option of the log adds is
  left alone by the others.
* `refused_of_bothGiven`: a line with both flags at one level ends as a misuse.
-/
namespace SiteAudit.Command

/-! ## What one option does -/

/-- The other option for the volume. -/
def Setting.opposite : Setting → Setting
  | .verbose => .quiet
  | .quiet => .verbose
  | s => s

/-- The settings with a flag for the volume. -/
def Given.loud (g : Given) (s : Setting) : Given :=
  { g with verbose := g.verbose || s == .verbose, quiet := g.quiet || s == .quiet }

/-- The settings with a flag for the volume that this level has seen. -/
def Given.mark (g : Given) (s : Setting) : Given :=
  { g.loud s with seen := s :: g.seen }

def Given.logTo (g : Given) (value : String) : Given :=
  { g with logFile := if value = "--" then none else nonEmpty value }

section Options

variable {l : Level} {s : Setting}

theorem volume_cases (hs : s ∈ volumeSettings) : s = .verbose ∨ s = .quiet := by
  simpa [volumeSettings] using hs

theorem apply_volume (hs : s ∈ volumeSettings) (g : Given) (value : String) :
    apply l g s value = (refuseBoth l g s s.opposite).map fun _ => g.mark s := by
  obtain rfl | rfl := volume_cases hs
  · have hmark : g.mark .verbose =
        { g with verbose := true, seen := Setting.verbose :: g.seen } := by
      simp [Given.mark, Given.loud]
    rw [hmark]
    simp only [apply, Setting.opposite]
    cases refuseBoth l g .verbose .quiet <;> rfl
  · have hmark : g.mark .quiet =
        { g with quiet := true, seen := Setting.quiet :: g.seen } := by
      simp [Given.mark, Given.loud]
    rw [hmark]
    simp only [apply, Setting.opposite]
    cases refuseBoth l g .quiet .verbose <;> rfl

theorem opposite_mem (hs : s ∈ volumeSettings) : s.opposite ∈ volumeSettings := by
  obtain rfl | rfl := volume_cases hs <;> decide

theorem opposite_opposite (s : Setting) : s.opposite.opposite = s := by
  cases s <;> rfl

theorem opposite_ne (hs : s ∈ volumeSettings) : s.opposite ≠ s := by
  obtain rfl | rfl := volume_cases hs <;> decide

theorem refuseBoth_eq (l : Level) (g : Given) (s other : Setting) :
    (other ∈ g.seen ∧ ∃ e, refuseBoth l g s other = .error e) ∨
      (other ∉ g.seen ∧ refuseBoth l g s other = .ok ()) := by
  unfold refuseBoth
  by_cases h : other ∈ g.seen
  · exact .inl ⟨h, _, if_pos (by simpa using h)⟩
  · exact .inr ⟨h, if_neg (by simpa using h)⟩

theorem apply_volume_ok (hs : s ∈ volumeSettings) {g g' : Given} {value : String}
    (h : apply l g s value = .ok g') : s.opposite ∉ g.seen ∧ g' = g.mark s := by
  rw [apply_volume hs] at h
  obtain ⟨-, e, he⟩ | ⟨hseen, hok⟩ := refuseBoth_eq l g s s.opposite
  · rw [he] at h
    cases h
  · rw [hok] at h
    cases h
    exact ⟨hseen, rfl⟩

theorem apply_unopposed (hs : s ∈ volumeSettings) {g : Given} (h : s.opposite ∉ g.seen)
    (value : String) : apply l g s value = .ok (g.mark s) := by
  rw [apply_volume hs]
  obtain ⟨hseen, -⟩ | ⟨-, hok⟩ := refuseBoth_eq l g s s.opposite
  · exact absurd hseen h
  · rw [hok]
    rfl

/-- Settings in which only what concerns the log is other. -/
def Given.relog (verbose quiet : Bool → Bool) (logFile : Option String → Option String)
    (seen : List Setting → List Setting) (g : Given) : Given :=
  { g with
    verbose := verbose g.verbose, quiet := quiet g.quiet, logFile := logFile g.logFile
    seen := seen g.seen }

/-- Options that do not set the volume do not look at it, nor at the log file. -/
theorem apply_relog (verbose quiet : Bool → Bool) (logFile : Option String → Option String)
    (seen : List Setting → List Setting) {t : Setting} (ht : t ∉ volumeSettings)
    (hlog : t = .logFile → logFile = id) (g : Given) (value : String) :
    apply l (g.relog verbose quiet logFile seen) t value =
      (apply l g t value).map (Given.relog verbose quiet logFile seen) := by
  cases t with
  | help => rfl
  | verbose | quiet => exact absurd (by decide) ht
  | logFile =>
    rw [hlog rfl]
    rfl
  | config | host => rfl
  | format =>
    simp only [apply]
    split
    · rfl
    · cases choose l Setting.format.shown formatWords value <;> rfl
  | failOn =>
    simp only [apply]
    split
    · rfl
    · cases choose l Setting.failOn.shown thresholdWords value <;> rfl
  | port =>
    simp only [apply]
    split
    · rfl
    · cases Text.integer? value.toList <;> rfl

theorem apply_other {t : Setting} (ht : t ∉ volumeSettings) {g g' : Given} {value : String}
    (h : apply l g t value = .ok g') : g'.seen = g.seen := by
  have hsame : apply l g t value =
      (apply l g t value).map (Given.relog id id id fun _ => g.seen) :=
    apply_relog id id id (fun _ => g.seen) ht (fun _ => rfl) g value
  rw [h] at hsame
  have heq : g' = g'.relog id id id fun _ => g.seen := Except.ok.inj hsame
  rw [heq]
  rfl

theorem mem_seen_apply {t : Setting} {g g' : Given} {value : String}
    (h : apply l g t value = .ok g') :
    s ∈ g'.seen ↔ s ∈ g.seen ∨ s ∈ volumeSettings ∧ s = t := by
  by_cases ht : t ∈ volumeSettings
  · obtain ⟨-, rfl⟩ := apply_volume_ok ht h
    have hseen : (g.mark t).seen = t :: g.seen := rfl
    rw [hseen, List.mem_cons]
    constructor
    · rintro (rfl | hmem)
      · exact .inr ⟨ht, rfl⟩
      · exact .inl hmem
    · rintro (hmem | ⟨-, rfl⟩)
      · exact .inr hmem
      · exact .inl rfl
  · rw [apply_other ht h]
    refine ⟨.inl, ?_⟩
    rintro (hmem | ⟨hs, rfl⟩)
    · exact hmem
    · exact absurd hs ht

theorem mem_seen_applyAll {g g' : Given} {opts : List (Setting × Option String)}
    (h : applyAll l g opts = .ok g') :
    s ∈ g'.seen ↔ s ∈ g.seen ∨ s ∈ volumeSettings ∧ s ∈ opts.map (·.1) := by
  induction opts generalizing g with
  | nil =>
    cases h
    simp
  | cons x opts ih =>
    obtain ⟨a, ha, hrest⟩ := bind_eq_ok h
    rw [ih hrest, mem_seen_apply ha, List.map_cons, List.mem_cons, or_assoc, ← and_or_left]

/-! ### No level accepts both -/

/-- A level has not seen both flags. -/
def Given.Exclusive (g : Given) : Prop :=
  ∀ s ∈ volumeSettings, s ∈ g.seen → s.opposite ∉ g.seen

theorem Given.Exclusive.apply {g g' : Given} (hg : g.Exclusive) {t : Setting} {value : String}
    (h : apply l g t value = .ok g') : g'.Exclusive := by
  intro s hs hmem hopposite
  by_cases ht : t ∈ volumeSettings
  · obtain ⟨hseen, rfl⟩ := apply_volume_ok ht h
    obtain rfl | hmem := List.mem_cons.mp hmem
    · obtain heq | hopposite := List.mem_cons.mp hopposite
      · exact opposite_ne hs heq
      · exact hseen hopposite
    · obtain heq | hopposite := List.mem_cons.mp hopposite
      · rw [← heq, opposite_opposite] at hseen
        exact hseen hmem
      · exact hg s hs hmem hopposite
  · rw [apply_other ht h] at hmem hopposite
    exact hg s hs hmem hopposite

theorem Given.Exclusive.applyAll {g g' : Given} (hg : g.Exclusive)
    {opts : List (Setting × Option String)} (h : applyAll l g opts = .ok g') : g'.Exclusive := by
  induction opts generalizing g with
  | nil =>
    cases h
    exact hg
  | cons x opts ih =>
    obtain ⟨a, ha, hrest⟩ := bind_eq_ok h
    exact ih (hg.apply ha) hrest

/-- **No options that are accepted hold both.** -/
theorem applyAll_excludes {g g' : Given} (hseen : g.seen = [])
    {opts : List (Setting × Option String)} (h : applyAll l g opts = .ok g')
    (hs : s ∈ volumeSettings) (hmem : s ∈ opts.map (·.1)) : s.opposite ∉ opts.map (·.1) := by
  have hexclusive : g'.Exclusive := by
    refine Given.Exclusive.applyAll (fun t _ ht => ?_) h
    rw [hseen] at ht
    cases ht
  intro hopposite
  exact hexclusive s hs ((mem_seen_applyAll h).mpr (.inr ⟨hs, hmem⟩))
    ((mem_seen_applyAll h).mpr (.inr ⟨opposite_mem hs, hopposite⟩))

/-! ### One more option -/

theorem applyAll_map (φ : Given → Given) {opts : List (Setting × Option String)}
    (h : ∀ t ∈ opts.map (·.1), ∀ g value, apply l (φ g) t value = (apply l g t value).map φ)
    (g : Given) : applyAll l (φ g) opts = (applyAll l g opts).map φ := by
  induction opts generalizing g with
  | nil => rfl
  | cons x opts ih =>
    obtain ⟨t, value⟩ := x
    simp only [applyAll, bind, h t (List.mem_cons_self ..) g]
    cases apply l g t (value.getD "") with
    | error e => rfl
    | ok a => exact ih (fun u hu => h u (List.mem_cons_of_mem _ hu)) a

theorem refuseBoth_congr (g h : Given) {other : Setting}
    (hseen : other ∈ h.seen ↔ other ∈ g.seen) : refuseBoth l h s other = refuseBoth l g s other := by
  have hcontains : h.seen.contains other = g.seen.contains other := by
    rw [Bool.eq_iff_iff]
    simpa using hseen
  unfold refuseBoth
  rw [hcontains]

theorem applyAll_loud (g : Given) (opts : List (Setting × Option String)) :
    applyAll l (g.loud s) opts = (applyAll l g opts).map (Given.loud · s) := by
  refine applyAll_map (Given.loud · s) (fun t _ g value => ?_) g
  by_cases ht : t ∈ volumeSettings
  · have hmark : (g.loud s).mark t = (g.mark t).loud s := by
      simp [Given.mark, Given.loud, Bool.or_right_comm]
    rw [apply_volume ht, apply_volume ht, hmark, refuseBoth_congr g (g.loud s) Iff.rfl]
    cases refuseBoth l g t t.opposite <;> rfl
  · exact apply_relog (· || s == .verbose) (· || s == .quiet) id id ht (fun _ => rfl) g value

theorem applyAll_mark (hs : s ∈ volumeSettings) (g : Given)
    {opts : List (Setting × Option String)} (h : s.opposite ∉ opts.map (·.1)) :
    applyAll l (g.mark s) opts = (applyAll l g opts).map (Given.mark · s) := by
  refine applyAll_map (Given.mark · s) (fun t hmem g value => ?_) g
  by_cases ht : t ∈ volumeSettings
  · obtain rfl : t = s := by
      obtain rfl | rfl := volume_cases hs <;> obtain rfl | rfl := volume_cases ht
      all_goals first | rfl | exact absurd hmem h
    have hseen : t.opposite ∈ (g.mark t).seen ↔ t.opposite ∈ g.seen := by
      have hcons : (g.mark t).seen = t :: g.seen := rfl
      rw [hcons, List.mem_cons, or_iff_right (opposite_ne ht)]
    rw [apply_volume ht, apply_volume ht, refuseBoth_congr g (g.mark t) hseen]
    cases refuseBoth l g t t.opposite <;> rfl
  · exact apply_relog (· || s == .verbose) (· || s == .quiet) id (s :: ·) ht (fun _ => rfl) g value

theorem applyAll_logTo (g : Given) (file : String) {opts : List (Setting × Option String)}
    (h : .logFile ∉ opts.map (·.1)) :
    applyAll l (g.logTo file) opts = (applyAll l g opts).map (Given.logTo · file) := by
  refine applyAll_map (Given.logTo · file) (fun t hmem g value => ?_) g
  by_cases ht : t ∈ volumeSettings
  · rw [apply_volume ht, apply_volume ht, refuseBoth_congr g (g.logTo file) Iff.rfl]
    cases refuseBoth l g t t.opposite <;> rfl
  · refine apply_relog id id (fun _ => if file = "--" then none else nonEmpty file) id ht
      (fun hlog => ?_) g value
    exact absurd (hlog ▸ hmem) h

theorem applyAll_insert_mark (hs : s ∈ volumeSettings) {g : Given} (hg : s.opposite ∉ g.seen)
    {before behind : List (Setting × Option String)}
    (h : s.opposite ∉ (before ++ behind).map (·.1)) (value : Option String) :
    applyAll l g (before ++ (s, value) :: behind) =
      (applyAll l g (before ++ behind)).map (Given.mark · s) := by
  rw [List.map_append, List.mem_append, not_or] at h
  rw [applyAll_append, applyAll_append]
  cases hbefore : applyAll l g before with
  | error e => rfl
  | ok a =>
    have ha : s.opposite ∉ a.seen := by
      rw [mem_seen_applyAll hbefore]
      exact not_or.mpr ⟨hg, fun hmem => h.1 hmem.2⟩
    simp only [Except.bind, applyAll, bind, apply_unopposed hs ha]
    exact applyAll_mark hs a h.2

theorem applyAll_insert_opposed (hs : s ∈ volumeSettings) {g g' : Given} (hseen : g.seen = [])
    {before behind : List (Setting × Option String)} {value : Option String}
    (h : s.opposite ∈ (before ++ behind).map (·.1)) :
    applyAll l g (before ++ (s, value) :: behind) ≠ .ok g' := by
  intro happly
  refine applyAll_excludes hseen happly hs (by simp) ?_
  rw [List.map_append, List.mem_append] at h
  rw [List.map_append, List.mem_append, List.map_cons]
  exact h.imp id (List.mem_cons_of_mem _)

end Options

/-! ## Lines with both -/

/-- Arguments of a level that give the flag for more as well as the one for less. -/
def BothGiven (l : Level) (args : List String) : Prop :=
  ∀ s ∈ volumeSettings, s ∈ optionsIn l args

theorem not_bothGiven {l : Level} {takesPath : Bool} {args : List String}
    {items : List (String × Kind)} (hitems : classify l args = .ok items) {r r' : Left}
    (hseen : r.1.seen = []) (h : readItems l takesPath r items = .ok r') : ¬BothGiven l args := by
  obtain ⟨-, hgiven, hplain, -⟩ := classify_classified hitems
  obtain ⟨opts, hreads, happly⟩ := readItems_ok hplain h
  intro hboth
  rw [BothGiven, ← hgiven, ← hreads.settings] at hboth
  exact applyAll_excludes hseen happly (s := .verbose) (by decide) (hboth _ (by decide))
    (hboth _ (by decide))

/-- **Both flags at one level are refused**, with the status of a misuse. -/
theorem refused_of_bothGiven {word : String} {l : Level} (hword : (word, l) ∈ commandWords)
    {before behind : List String} (hbefore : complete .program false before = true)
    (hboth : BothGiven .program before ∨ BothGiven l behind)
    (hprogram : .help ∉ optionsIn .program before) (hcommand : .help ∉ optionsIn l behind)
    (readers : Readers) (time : String) (disk : Disk) :
    (run readers time disk (before ++ word :: behind)).ending = .exit 2 := by
  unfold run
  cases hparse : parse (before ++ word :: behind) with
  | error e =>
    obtain ⟨level, message, rfl⟩ := parse_line_faults hword hbefore hprogram hcommand e hparse
    rfl
  | ok i =>
    obtain ⟨found, known, items, hfound, -, hitems, hline⟩ := parse_line_ok hword hbefore hparse
    obtain ⟨r, q, hr, hq⟩ := readLine_ok hline
    obtain hboth | hboth := hboth
    · exact absurd hboth (not_bothGiven hfound rfl hr)
    · exact absurd hboth (not_bothGiven hitems rfl hq)

end SiteAudit.Command
