import SiteAudit.Proofs.Command.Stages

/-!
# Flags that set the volume of the log

The flags for more and for less may stand in front of the command and behind it.
They have a share in what else the arguments say in one way only: at one level
the one forbids the other. So arguments without them are read wherever those with
them are, and ask for the same.

* `readCommand_milder`: reading from settings that are milder follows reading
  from others, step by step.
* `flag_before_along`, `flag_behind_along`: a flag in front of the command or right
  behind it.
-/
namespace SiteAudit.Command

/-! ## Reading along -/

/-- Wherever the one gives something, the other gives something related to it. -/
def Along {ε α : Type} (R : α → α → Prop) (x y : Except ε α) : Prop :=
  ∀ a, x = .ok a → ∃ b, y = .ok b ∧ R a b

theorem Along.ok {ε α : Type} {R : α → α → Prop} {a b : α} (h : R a b) :
    Along R (.ok a : Except ε α) (.ok b) := by
  rintro a' ⟨⟩
  exact ⟨b, rfl, h⟩

theorem Along.error {ε α : Type} {R : α → α → Prop} (e : ε) (y : Except ε α) :
    Along R (.error e) y := fun a h => by cases h

theorem Along.bind {ε α β : Type} {R : α → α → Prop} {S : β → β → Prop} {x y : Except ε α}
    {f g : α → Except ε β} (hxy : Along R x y) (hfg : ∀ a b, R a b → Along S (f a) (g b)) :
    Along S (x >>= f) (y >>= g) := by
  cases x with
  | error e => exact .error e _
  | ok a =>
    obtain ⟨b, rfl, hab⟩ := hxy a rfl
    exact hfg a b hab

/-- The same settings but for the volume, and no more flags of it seen. -/
structure Given.Milder (g h : Given) : Prop where
  logFile : h.logFile = g.logFile
  config : h.config = g.config
  format : h.format = g.format
  failOn : h.failOn = g.failOn
  seen : h.seen ⊆ g.seen

theorem refuseBoth_along {g h : Given} (hseen : h.seen ⊆ g.seen) (l : Level) (s other : Setting) :
    Along (fun _ _ => True) (refuseBoth l g s other) (refuseBoth l h s other) := by
  unfold refuseBoth
  by_cases hg : g.seen.contains other = true
  · rw [if_pos hg]
    exact .error _ _
  · have hh : ¬h.seen.contains other = true := by
      intro hh
      exact hg (by simpa using hseen (by simpa using hh))
    rw [if_neg hg, if_neg hh]
    exact .ok trivial

theorem apply_milder {g h : Given} (hgh : g.Milder h) (l : Level) (s : Setting)
    (value : String) : Along Given.Milder (apply l g s value) (apply l h s value) := by
  obtain ⟨hlog, hconfig, hformat, hfailOn, hseen⟩ := hgh
  cases s with
  | help => exact .error _ _
  | verbose =>
    refine (refuseBoth_along hseen l _ _).bind fun _ _ _ => .ok ?_
    exact ⟨hlog, hconfig, hformat, hfailOn, List.cons_subset_cons _ hseen⟩
  | quiet =>
    refine (refuseBoth_along hseen l _ _).bind fun _ _ _ => .ok ?_
    exact ⟨hlog, hconfig, hformat, hfailOn, List.cons_subset_cons _ hseen⟩
  | logFile => exact .ok ⟨rfl, hconfig, hformat, hfailOn, hseen⟩
  | config => exact .ok ⟨hlog, rfl, hformat, hfailOn, hseen⟩
  | format =>
    simp only [apply]
    split
    · exact .ok ⟨hlog, hconfig, rfl, hfailOn, hseen⟩
    · cases choose l Setting.format.shown formatWords value with
      | error e => exact .error _ _
      | ok format => exact .ok ⟨hlog, hconfig, rfl, hfailOn, hseen⟩
  | failOn =>
    simp only [apply]
    split
    · exact .ok ⟨hlog, hconfig, hformat, rfl, hseen⟩
    · cases choose l Setting.failOn.shown thresholdWords value with
      | error e => exact .error _ _
      | ok failOn => exact .ok ⟨hlog, hconfig, hformat, rfl, hseen⟩
  | host => exact .ok ⟨hlog, hconfig, hformat, hfailOn, hseen⟩
  | port =>
    simp only [apply]
    split
    · exact .ok ⟨hlog, hconfig, hformat, hfailOn, hseen⟩
    · split
      · exact .ok ⟨hlog, hconfig, hformat, hfailOn, hseen⟩
      · exact .error _ _

theorem applyAll_milder (l : Level) (parts : List (Setting × Option String)) {g h : Given}
    (hgh : g.Milder h) : Along Given.Milder (applyAll l g parts) (applyAll l h parts) := by
  induction parts generalizing g h with
  | nil => exact .ok hgh
  | cons part more ih => exact (apply_milder hgh l _ _).bind fun _ _ => ih

/-- The settings and the rest of what is read: the settings are milder, the rest
is the same. -/
def MilderFst {α : Type} (a b : Given × α) : Prop := a.1.Milder b.1 ∧ b.2 = a.2

theorem readOption_milder {g h : Given} (hgh : g.Milder h) (l : Level) (s : Setting)
    (name : String) (value next : Option String) :
    Along MilderFst (readOption l g s name value next) (readOption l h s name value next) := by
  have hpair (used : Bool) (a b : Given) (hab : a.Milder b) :
      Along MilderFst (.ok (a, used) : Except Exit (Given × Bool)) (.ok (b, used)) :=
    .ok ⟨hab, rfl⟩
  unfold readOption
  cases joined l s name value ((value.getD "").length + 1) with
  | error e => exact .error _ _
  | ok parts =>
    dsimp only [bind, Except.bind]
    split
    · split
      · split
        · exact .error _ _
        · exact (applyAll_milder l _ hgh).bind (hpair true)
      · exact (applyAll_milder l _ hgh).bind (hpair false)
    · exact (applyAll_milder l _ hgh).bind (hpair false)

theorem readCommand_milder (l : Level) (takesPath : Bool) (k : Nat) {g h : Given}
    (hgh : g.Milder h) (path : Option String) (extras : List String)
    (items : List (String × Kind)) :
    Along MilderFst (readCommand l takesPath g path extras k items)
      (readCommand l takesPath h path extras k items) := by
  induction k generalizing g h path extras items with
  | zero => exact .ok ⟨hgh, rfl⟩
  | succ k ih =>
    cases items with
    | nil => exact .ok ⟨hgh, rfl⟩
    | cons item more =>
      obtain ⟨arg, kind⟩ := item
      cases kind with
      | option s name value =>
        refine (readOption_milder hgh l s name value (plainNext more)).bind ?_
        rintro ⟨a, used⟩ ⟨b, _⟩ ⟨hab, rfl⟩
        exact ih hab _ _ _
      | unknown => exact ih hgh _ _ _
      | plain =>
        unfold readCommand
        dsimp only
        split
        · exact ih hgh _ _ _
        · exact ih hgh _ _ _
      | separator =>
        unfold readCommand
        dsimp only
        split
        · split
          · exact ih hgh _ _ _
          · exact .ok ⟨hgh, rfl⟩
        · exact .ok ⟨hgh, rfl⟩

/-! ## One flag -/

/-- The options that set the volume of the log. -/
def volumeSettings : List Setting := [.verbose, .quiet]

/-- The flags that set the volume of the log. -/
def volumeFlags : List String := volumeSettings.flatMap Setting.names

/-- What one of these options sets. -/
def volumeGiven (s : Setting) : Given where
  verbose := s = .verbose
  quiet := s = .quiet
  seen := [s]

theorem classify_flag {flag : String} (h : flag ∈ volumeFlags) (l : Level) :
    ∃ s ∈ volumeSettings, ∀ more, classify l (flag :: more) =
      (classify l more).map ((flag, .option s flag none) :: ·) := by
  have hknown : ∀ flag ∈ volumeFlags, ∃ s ∈ volumeSettings, l.named.lookup flag = some s := by
    cases l <;> decide +kernel
  have hlead : ∀ flag ∈ volumeFlags, flag.startsWith "-" = true ∧ flag ≠ "--" := by
    decide +kernel
  obtain ⟨s, hs, hlookup⟩ := hknown flag h
  obtain ⟨hdash, hseparator⟩ := hlead flag h
  have hone : classifyOne l flag = .ok (.option s flag none) := by
    simp [classifyOne, hdash, hlookup]
  refine ⟨s, hs, fun more => ?_⟩
  rw [classify]
  · rw [hone]
    cases classify l more <;> rfl
  · exact hseparator

theorem readOption_volume {s : Setting} (h : s ∈ volumeSettings) (l : Level) (name : String)
    (next : Option String) :
    readOption l {} s name none next = .ok (volumeGiven s, false) := by
  simp only [volumeSettings, List.mem_cons, List.not_mem_nil, or_false] at h
  rcases h with rfl | rfl <;> rfl

theorem volumeGiven_milder (s : Setting) : (volumeGiven s).Milder {} :=
  ⟨rfl, rfl, rfl, rfl, List.nil_subset _⟩

/-! ## Whole command lines -/

/-- Two invocations ask for the same, with the same log file. -/
def SameRequest (i j : Invocation) : Prop := j.request = i.request ∧ j.logFile = i.logFile

/-- The invocation of a check with what its arguments left. -/
def asked (r : Given × Option String × List String) : Except Exit Invocation :=
  finish r.1 (some (.check (r.2.1.getD ".") r.1.config r.1.format r.1.failOn)) r.2.2

theorem asked_along {x y : Except Exit (Given × Option String × List String)}
    (h : Along MilderFst x y) : Along SameRequest (x.bind asked) (y.bind asked) := by
  refine h.bind ?_
  rintro ⟨a, path, extras⟩ ⟨b, rest⟩ ⟨hab, hrest⟩
  obtain rfl : rest = (path, extras) := hrest
  have hconfig : b.config = a.config := hab.config
  have hformat : b.format = a.format := hab.format
  have hfailOn : b.failOn = a.failOn := hab.failOn
  unfold asked finish
  simp only [hconfig, hformat, hfailOn]
  split
  · exact .ok ⟨rfl, hab.logFile⟩
  · exact .error _ _

/-- The arguments of a check, read from what the program's own options set. -/
def readCheck (given : Given) (items : List (String × Kind)) : Except Exit Invocation :=
  (readCommand .check true { given with seen := [] } none [] (items.length + 1) items).bind asked

theorem readProgram_check (given : Given) (k : Nat) (items : List (String × Kind)) :
    readProgram given [] (k + 1) (("check", .plain) :: items) =
      (classify .check (items.map (·.1))).bind (readCheck given) := by
  have hlevel : choose .program "argument command" commandWords "check" = .ok .check := rfl
  have htakes : (Level.check == Level.check) = true := rfl
  rw [readProgram, hlevel]
  simp only [command, bind, Except.bind, htakes]
  cases classify .check (items.map (·.1)) with
  | error e => rfl
  | ok found =>
    simp only [Except.bind, readCheck]
    cases readCommand .check true { given with seen := [] } none [] (found.length + 1) found <;>
      rfl

theorem classify_check (rest : List String) :
    classify .program ("check" :: rest) =
      (classify .program rest).map (("check", .plain) :: ·) := by
  have hdash : "check".startsWith "-" = false := by decide +kernel
  have hone : classifyOne .program "check" = .ok .plain := by simp [classifyOne, hdash]
  rw [classify]
  · rw [hone]
    cases classify .program rest <;> rfl
  · decide

theorem parse_check (rest : List String) :
    parse ("check" :: rest) = (classify .program rest).bind (fun items =>
      (classify .check (items.map (·.1))).bind (readCheck {})) := by
  rw [parse, classify_check]
  cases classify .program rest with
  | error e => rfl
  | ok items => exact readProgram_check {} (items.length + 1) items

theorem parse_flag_check {flag : String} (h : flag ∈ volumeFlags) :
    ∃ s ∈ volumeSettings, ∀ rest, parse (flag :: "check" :: rest) =
      (classify .program rest).bind (fun items =>
        (classify .check (items.map (·.1))).bind (readCheck (volumeGiven s))) := by
  obtain ⟨s, hs, hflag⟩ := classify_flag h .program
  refine ⟨s, hs, fun rest => ?_⟩
  rw [parse, hflag, classify_check]
  cases classify .program rest with
  | error e => rfl
  | ok items =>
    have hstep : readProgram {} [] (items.length + 3)
        ((flag, .option s flag none) :: ("check", .plain) :: items) =
        readProgram (volumeGiven s) [] (items.length + 2) (("check", .plain) :: items) := by
      rw [readProgram, plainNext, readOption_volume hs]
      rfl
    exact hstep.trans (readProgram_check _ _ items)

theorem flag_before_along {flag : String} (h : flag ∈ volumeFlags) (rest : List String) :
    Along SameRequest (parse ("check" :: rest)) (parse (flag :: "check" :: rest)) ∧
      Along SameRequest (parse (flag :: "check" :: rest)) (parse ("check" :: rest)) := by
  obtain ⟨s, -, hflag⟩ := parse_flag_check h
  rw [parse_check, hflag]
  cases classify .program rest with
  | error e => exact ⟨.error _ _, .error _ _⟩
  | ok items =>
    simp only [Except.bind]
    cases classify .check (items.map (·.1)) with
    | error e => exact ⟨.error _ _, .error _ _⟩
    | ok found =>
      -- a command begins with no flags seen, so it does not matter what the program has seen
      have hthere : Given.Milder {} { volumeGiven s with seen := [] } :=
        ⟨rfl, rfl, rfl, rfl, List.Subset.refl _⟩
      have hback : Given.Milder { volumeGiven s with seen := [] } {} :=
        ⟨rfl, rfl, rfl, rfl, List.Subset.refl _⟩
      exact ⟨asked_along (readCommand_milder _ _ _ hthere _ _ _),
        asked_along (readCommand_milder _ _ _ hback _ _ _)⟩

theorem flag_behind_along {flag : String} (h : flag ∈ volumeFlags) (rest : List String) :
    Along SameRequest (parse ("check" :: flag :: rest)) (parse ("check" :: rest)) := by
  obtain ⟨_, -, hprogram⟩ := classify_flag h .program
  obtain ⟨s, hs, hcheck⟩ := classify_flag h .check
  rw [parse_check, parse_check, hprogram]
  cases classify .program rest with
  | error e => exact .error _ _
  | ok items =>
    simp only [Except.bind, Except.map, List.map_cons, hcheck]
    cases classify .check (items.map (·.1)) with
    | error e => exact .error _ _
    | ok found =>
      have hstep : readCommand .check true {} none [] (found.length + 2)
          ((flag, .option s flag none) :: found) =
          readCommand .check true (volumeGiven s) none [] (found.length + 1) found := by
        rw [readCommand, readOption_volume hs]
        rfl
      have halong : Along MilderFst (readCommand .check true {} none [] (found.length + 2)
          ((flag, .option s flag none) :: found))
          (readCommand .check true {} none [] (found.length + 1) found) := by
        rw [hstep]
        exact readCommand_milder _ _ _ (volumeGiven_milder s) _ _ _
      exact asked_along halong

theorem AsksCheck.along {args args' : List String} {i : Invocation} {path : String}
    {config : Option String} {format : Format} {failOn : Threshold}
    (h : AsksCheck args i path config format failOn)
    (halong : Along SameRequest (parse args) (parse args')) :
    ∃ i', AsksCheck args' i' path config format failOn := by
  obtain ⟨i', haccepted, hrequest, hlogFile⟩ := halong i h.accepted
  exact ⟨i', haccepted, hlogFile.trans h.noLogFile, hrequest.trans h.request⟩

end SiteAudit.Command
