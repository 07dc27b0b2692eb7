import SiteAudit.Proofs.Command.LogOptions

/-!
# Where the options of the log stand

An option of the log means the same in front of the command and behind it. Only a
level forgets which flags the one before has seen, so a flag may be refused in the
one place and accepted in the other.

* `readItems_around`: arguments around an option are read in the same way with it and
  without it.
* `Slots.read`: a line with the option in the one place or in the other comes to what
  its options set, one after the other.
* `flags_exclude_at_one_level`: both flags at one level are refused, and an option that
  meets nothing to its contrary may stand in either place.
-/
namespace SiteAudit.Command

/-! ## Around an option -/

section Around

variable {l : Level} {words takesPath : Bool} {before option behind : List (String × Kind)}
  {s : Setting} {value : String}

/-- **Arguments around an option** are read in the same way with it and without it, if
they are accepted either way. -/
theorem readItems_around (hbefore : whole l words before = true)
    (hbehind : words = true → ∀ x ∈ behind.head?, x.2 ≠ .separator)
    (hplainBefore : PlainBehind before) (hplainBehind : PlainBehind behind)
    (hoption : whole l false option = true)
    (hreads : ∀ rest, Reads l takesPath rest option [(s, some value)] rest)
    {r r' : Left} (h : readItems l takesPath r (before ++ behind) = .ok r' ∨
      readItems l takesPath r (before ++ (option ++ behind)) = .ok r') :
    ∃ front back path, front.map (·.1) = given l before ∧ back.map (·.1) = given l behind ∧
      Reads l takesPath r.2 (before ++ behind) (front ++ back) path ∧
      Reads l takesPath r.2 (before ++ (option ++ behind))
        (front ++ (s, some value) :: back) path := by
  have hhead : words = true → ∀ x ∈ (option ++ behind).head?, x.2 ≠ .separator := by
    intro hwords
    cases option with
    | nil => exact hbehind hwords
    | cons x option => exact fun y hy => whole_head hoption y hy
  obtain ⟨r₁, hr₁, g, r₂, hr₂⟩ : ∃ r₁, readItems l takesPath r before = .ok r₁ ∧
      ∃ g r₂, readItems l takesPath (g, r₁.2) behind = .ok r₂ := by
    obtain h | h := h
    · rw [readItems_append hbefore hbehind] at h
      obtain ⟨r₁, hr₁, h⟩ := bind_eq_ok h
      exact ⟨r₁, hr₁, r₁.1, r', h⟩
    · rw [readItems_append hbefore hhead] at h
      obtain ⟨r₁, hr₁, h⟩ := bind_eq_ok h
      rw [readItems_append hoption nofun] at h
      obtain ⟨x, hx, h⟩ := bind_eq_ok h
      obtain ⟨g, -, rfl⟩ := map_eq_ok (((hreads r₁.2).read r₁.1).symm.trans hx)
      exact ⟨r₁, hr₁, g, r', h⟩
  obtain ⟨front, hfront, -⟩ := readItems_ok hplainBefore hr₁
  obtain ⟨back, hback, -⟩ := readItems_ok hplainBehind hr₂
  exact ⟨front, back, r₂.2, hfront.settings, hback.settings,
    hfront.append hbefore hbehind hback,
    hfront.append hbefore hhead ((hreads _).append hoption nofun hback)⟩

end Around

/-! ## An option in two places -/

/-- A line with room for an option in front of its command and behind it. Where plain
words stand in front of the room (`words`), no separator is right behind it: the last
of the words may use that up. -/
structure Slots (l : Level) where
  lead : List String
  toCommand : List String
  fromCommand : List String
  rest : List String
  lead_complete : complete .program false lead = true
  toCommand_complete : complete .program false toCommand = true
  fromCommand_complete : ∃ words, complete l words fromCommand = true ∧
    (words = true → rest.head? ≠ some "--")

/-- Nothing that an option would meet in one place only is to its contrary: a flag has
its opposite at both levels or at neither, and another log file is named nowhere
between the two places. -/
structure Slots.Indifferent {l : Level} (w : Slots l) (s : Setting) : Prop where
  volume : s ∈ volumeSettings →
    (s.opposite ∈ optionsIn .program (w.lead ++ w.toCommand) ↔
      s.opposite ∈ optionsIn l (w.fromCommand ++ w.rest))
  logFile : s = .logFile →
    .logFile ∉ optionsIn .program w.toCommand ∧ .logFile ∉ optionsIn l w.fromCommand

/-- What options come to, those of the program and then those of the command. -/
def settle (l : Level) (path : Option String) (extras : List String)
    (program command : List (Setting × Option String)) : Except Exit Invocation :=
  (applyAll .program {} program).bind fun g =>
    (applyAll l { g with seen := [] } command).bind fun g =>
      finish g (some (requested l g path)) extras

namespace Slots

variable {l : Level} (w : Slots l)

/-- The line with the option in front of the command. -/
def early (word : String) (option : List String) : List String :=
  w.lead ++ (option ++ w.toCommand) ++ word :: (w.fromCommand ++ w.rest)

/-- The line with the option behind the command. -/
def late (word : String) (option : List String) : List String :=
  w.lead ++ w.toCommand ++ word :: (w.fromCommand ++ (option ++ w.rest))

end Slots

theorem Slots.noSeparator {l : Level} (w : Slots l) : "--" ∉ w.lead ∧ "--" ∉ w.fromCommand := by
  obtain ⟨words, hfromCommand, -⟩ := w.fromCommand_complete
  exact ⟨(complete_iff.mp w.lead_complete).1, (complete_iff.mp hfromCommand).1⟩

theorem optionsIn_append {l : Level} {args : List String} (h : "--" ∉ args) (more : List String) :
    optionsIn l (args ++ more) = optionsIn l args ++ optionsIn l more := by
  have hall : ∀ a ∈ args, (a != "--") = true := by
    rintro a ha
    simpa using fun heq : a = "--" => h (heq ▸ ha)
  rw [optionsIn, List.takeWhile_append_of_pos hall, List.flatMap_append, optionsIn, optionsIn]
  congr 1
  rw [← List.append_nil args, List.takeWhile_append_of_pos hall]
  simp

section Moving

variable {word : String} {l : Level}

theorem classify_around {m : Level} {front option rest : List String}
    {items : List (String × Kind)} (hfront : "--" ∉ front) (hseparator : "--" ∉ option)
    (hoption : classify m option = .ok items)
    (h : (∃ x, classify m (front ++ rest) = .ok x) ∨
      ∃ x, classify m (front ++ (option ++ rest)) = .ok x) :
    ∃ x y, classify m front = .ok x ∧ classify m rest = .ok y ∧
      classify m (front ++ rest) = .ok (x ++ y) ∧
      classify m (front ++ (option ++ rest)) = .ok (x ++ (items ++ y)) := by
  have hwithout := classify_append (l := m) hfront rest
  have hwith := classify_append (l := m) hfront (option ++ rest)
  rw [classify_append hseparator, hoption] at hwith
  obtain ⟨x, y, hx, hy⟩ : ∃ x y, classify m front = .ok x ∧ classify m rest = .ok y := by
    obtain ⟨z, h⟩ | ⟨z, h⟩ := h
    · rw [hwithout] at h
      obtain ⟨x, hx, h⟩ := bind_eq_ok h
      obtain ⟨y, hy, -⟩ := map_eq_ok h
      exact ⟨x, y, hx, hy⟩
    · rw [hwith] at h
      obtain ⟨x, hx, h⟩ := bind_eq_ok h
      obtain ⟨u, hu, -⟩ := map_eq_ok h
      obtain ⟨y, hy, -⟩ := map_eq_ok hu
      exact ⟨x, y, hx, hy⟩
  rw [hx, hy] at hwithout hwith
  exact ⟨x, y, hx, hy, hwithout, hwith⟩

theorem line_settles {found items : List (String × Kind)}
    {program command : List (Setting × Option String)} {left path : Option String × List String}
    (hprogram : ∀ a, readItems .program false (a, none, []) found =
      (applyAll .program a program).map (·, left))
    (hcommand : ∀ a, readItems l (l == .check) (a, none, []) items =
      (applyAll l a command).map (·, path)) :
    readLine l found items = settle l path.1 (left.2 ++ path.2) program command := by
  rw [readLine, hprogram, settle]
  cases applyAll .program {} program with
  | error e => rfl
  | ok g =>
    simp only [Except.map, Except.bind, readBehind, hcommand]
    cases applyAll l { g with seen := [] } command <;> rfl

/-- What the arguments around the option are, at the level where they stand. -/
structure Slots.Known (w : Slots l) (lead toCommand fromCommand rest : List (String × Kind)) :
    Prop where
  lead : classify .program w.lead = .ok lead
  toCommand : classify .program w.toCommand = .ok toCommand
  fromCommand : classify l w.fromCommand = .ok fromCommand
  rest : classify l w.rest = .ok rest

/-- If one of the two lines is accepted, it is known what all arguments are, and the
lines are read like this. -/
theorem Slots.known (w : Slots l) (hword : (word, l) ∈ commandWords) {s : Setting}
    {option : List String} {value : String} (hprogram : Gives .program option s value)
    {here there : List (String × Kind)} (hhere : classify .program option = .ok here)
    (hthere : classify l option = .ok there) {i : Invocation}
    (h : parse (w.early word option) = .ok i ∨ parse (w.late word option) = .ok i) :
    ∃ lead toCommand fromCommand rest, w.Known lead toCommand fromCommand rest ∧
      parse (w.early word option) =
        readLine l (lead ++ (here ++ toCommand)) (fromCommand ++ rest) ∧
      parse (w.late word option) =
        readLine l (lead ++ toCommand) (fromCommand ++ (there ++ rest)) := by
  obtain ⟨words, hfromCommand, -⟩ := w.fromCommand_complete
  have hlate := complete_append w.lead_complete w.toCommand_complete
  have hearly := complete_append w.lead_complete
    (complete_append hprogram.complete w.toCommand_complete)
  have hlead := (complete_iff.mp w.lead_complete).1
  have hfrom := (complete_iff.mp hfromCommand).1
  have hclassified : ((∃ x, classify .program (w.lead ++ w.toCommand) = .ok x) ∨
        ∃ x, classify .program (w.lead ++ (option ++ w.toCommand)) = .ok x) ∧
      ((∃ x, classify .program (w.fromCommand ++ w.rest) = .ok x) ∨
        ∃ x, classify .program (w.fromCommand ++ (option ++ w.rest)) = .ok x) ∧
      ((∃ x, classify l (w.fromCommand ++ w.rest) = .ok x) ∨
        ∃ x, classify l (w.fromCommand ++ (option ++ w.rest)) = .ok x) := by
    obtain h | h := h
    · obtain ⟨found, known, items, hfound, hknown, hitems, -⟩ := parse_line_ok hword hearly h
      exact ⟨.inr ⟨_, hfound⟩, .inl ⟨_, hknown⟩, .inl ⟨_, hitems⟩⟩
    · obtain ⟨found, known, items, hfound, hknown, hitems, -⟩ := parse_line_ok hword hlate h
      exact ⟨.inl ⟨_, hfound⟩, .inr ⟨_, hknown⟩, .inr ⟨_, hitems⟩⟩
  obtain ⟨hbefore, hknown, hbehind⟩ := hclassified
  obtain ⟨lead, toCommand, hl, ht, hlt, hlot⟩ :=
    classify_around hlead hprogram.noSeparator hhere hbefore
  obtain ⟨_, _, -, -, hkr, hkor⟩ := classify_around hfrom hprogram.noSeparator hhere hknown
  obtain ⟨fromCommand, rest, hf, hr, hfr, hfor⟩ :=
    classify_around hfrom hprogram.noSeparator hthere hbehind
  exact ⟨lead, toCommand, fromCommand, rest, ⟨hl, ht, hf, hr⟩,
    parse_line_eq hword hearly hlot hkr hfr, parse_line_eq hword hlate hlt hkor hfor⟩

/-- **Either line comes to what its options set**, one after the other, if one of the two
is accepted. -/
theorem Slots.read (w : Slots l) (hword : (word, l) ∈ commandWords) {s : Setting}
    {option : List String} {value : String} (hprogram : Gives .program option s value)
    (hcommand : Gives l option s value) {i : Invocation}
    (h : parse (w.early word option) = .ok i ∨ parse (w.late word option) = .ok i) :
    ∃ lead toCommand fromCommand rest path extras,
      lead.map (·.1) = optionsIn .program w.lead ∧
      toCommand.map (·.1) = optionsIn .program w.toCommand ∧
      fromCommand.map (·.1) = optionsIn l w.fromCommand ∧
      rest.map (·.1) = optionsIn l w.rest ∧
      parse (w.early word option) = settle l path extras
        (lead ++ (s, some value) :: toCommand) (fromCommand ++ rest) ∧
      parse (w.late word option) = settle l path extras
        (lead ++ toCommand) (fromCommand ++ (s, some value) :: rest) := by
  obtain ⟨here, hhere, hwholeHere, hreadHere⟩ := hprogram.read
  obtain ⟨there, hthere, hwholeThere, hreadThere⟩ := hcommand.read
  obtain ⟨lead, toCommand, fromCommand, rest, ⟨hl, ht, hf, hr⟩, hearly, hlate⟩ :=
    w.known hword hprogram hhere hthere h
  rw [hearly, hlate] at h ⊢
  obtain ⟨words, hfromCommand, hrest⟩ := w.fromCommand_complete
  have hwholeLead := (complete_iff.mp w.lead_complete).2 lead hl
  have hwholeFrom := (complete_iff.mp hfromCommand).2 fromCommand hf
  have hseparator : words = true → ∀ x ∈ rest.head?, x.2 ≠ .separator := fun hwords =>
    (classify_classified hr).head_ne_separator (hrest hwords)
  obtain ⟨r, q, g, hfront, hback⟩ : ∃ r q g,
      (readItems .program false ({}, none, []) (lead ++ toCommand) = .ok r ∨
        readItems .program false ({}, none, []) (lead ++ (here ++ toCommand)) = .ok r) ∧
      (readItems l (l == .check) (g, none, []) (fromCommand ++ rest) = .ok q ∨
        readItems l (l == .check) (g, none, []) (fromCommand ++ (there ++ rest)) = .ok q) := by
    obtain h | h := h
    · obtain ⟨r, q, hr, hq⟩ := readLine_ok h
      exact ⟨r, q, _, .inr hr, .inl hq⟩
    · obtain ⟨r, q, hr, hq⟩ := readLine_ok h
      exact ⟨r, q, _, .inl hr, .inr hq⟩
  obtain ⟨o₁, o₂, left, ho₁, ho₂, hreads, hreadsWith⟩ := readItems_around hwholeLead nofun
    (classify_classified hl).plainBehind (classify_classified ht).plainBehind hwholeHere
    (hreadHere false) hfront
  obtain ⟨o₃, o₄, path, ho₃, ho₄, hreads', hreadsWith'⟩ := readItems_around hwholeFrom hseparator
    (classify_classified hf).plainBehind (classify_classified hr).plainBehind hwholeThere
    (hreadThere _) hback
  refine ⟨o₁, o₂, o₃, o₄, path.1, left.2 ++ path.2, ?_, ?_, ?_, ?_, ?_, ?_⟩
  · exact ho₁.trans (classify_classified hl).given
  · exact ho₂.trans (classify_classified ht).given
  · exact ho₃.trans (classify_classified hf).given
  · exact ho₄.trans (classify_classified hr).given
  · exact line_settles hreadsWith.read hreads'.read
  · exact line_settles hreads.read hreadsWith'.read

/-! ## Flags and log files -/

section Settled

variable {s : Setting} {path : Option String} {extras : List String}
  {lead toCommand fromCommand rest : List (Setting × Option String)} {value : Option String}

/-- A flag may stand in either place, where it meets its opposite in both or in neither. -/
theorem settle_volume (hs : s ∈ volumeSettings)
    (h : s.opposite ∈ (lead ++ toCommand).map (·.1) ↔
      s.opposite ∈ (fromCommand ++ rest).map (·.1)) (i : Invocation) :
    settle l path extras (lead ++ (s, value) :: toCommand) (fromCommand ++ rest) = .ok i ↔
      settle l path extras (lead ++ toCommand) (fromCommand ++ (s, value) :: rest) = .ok i := by
  by_cases hopposite : s.opposite ∈ (lead ++ toCommand).map (·.1)
  · -- with its opposite at both levels, the flag is refused in either place
    constructor
    · intro hok
      obtain ⟨g, hg, -⟩ := bind_eq_ok hok
      exact absurd hg (applyAll_insert_opposed hs rfl hopposite)
    · intro hok
      obtain ⟨g, -, hok⟩ := bind_eq_ok hok
      obtain ⟨g', hg', -⟩ := bind_eq_ok hok
      exact absurd hg' (applyAll_insert_opposed hs rfl (h.mp hopposite))
  · have hbehind := mt h.mpr hopposite
    have hempty : ∀ g : Given, g.seen = [] → s.opposite ∉ g.seen := by
      intro g hseen
      simp [hseen]
    unfold settle
    rw [applyAll_insert_mark hs (hempty {} rfl) hopposite]
    cases applyAll .program {} (lead ++ toCommand) with
    | error e => exact Iff.rfl
    | ok g =>
      simp only [Except.map, Except.bind]
      rw [applyAll_insert_mark hs (hempty _ rfl) hbehind]
      have hloud : { g.mark s with seen := [] } = Given.loud { g with seen := [] } s := rfl
      rw [hloud, applyAll_loud]
      -- what the command has seen is forgotten with it
      cases applyAll l { g with seen := [] } (fromCommand ++ rest) <;> exact Iff.rfl

/-- A log file may be named in either place, where no other is named between them. -/
theorem settle_logFile (htoCommand : .logFile ∉ toCommand.map (·.1))
    (hfromCommand : .logFile ∉ fromCommand.map (·.1)) :
    settle l path extras (lead ++ (.logFile, value) :: toCommand) (fromCommand ++ rest) =
      settle l path extras (lead ++ toCommand) (fromCommand ++ (.logFile, value) :: rest) := by
  unfold settle
  rw [applyAll_append, applyAll_append]
  cases applyAll .program {} lead with
  | error e => rfl
  | ok g =>
    have hset : ∀ m a, apply m a .logFile (value.getD "") = .ok (a.logTo (value.getD "")) :=
      fun _ _ => rfl
    simp only [Except.bind, applyAll, bind, hset]
    rw [applyAll_logTo _ _ htoCommand]
    cases applyAll .program g toCommand with
    | error e => rfl
    | ok g =>
      have hlog : { g.logTo (value.getD "") with seen := [] } =
          Given.logTo { g with seen := [] } (value.getD "") := rfl
      simp only [Except.map, hlog, applyAll_append]
      rw [applyAll_logTo _ _ hfromCommand]
      cases applyAll l { g with seen := [] } fromCommand with
      | error e => rfl
      | ok g => simp only [Except.map, Except.bind, applyAll, bind, hset]

end Settled

/-- **The flags exclude each other at one level.** Where the program or its command is
given both, and help is asked for nowhere, the run ends as a misuse. An option of the
log may stand in front of the command or behind it: where it meets nothing to its
contrary in one place only, the same lines are accepted and mean the same. -/
theorem flags_exclude_at_one_level (hword : (word, l) ∈ commandWords) :
    (∀ before behind, complete .program false before = true →
      BothGiven .program before ∨ BothGiven l behind →
      .help ∉ optionsIn .program before → .help ∉ optionsIn l behind →
      ∀ readers time disk,
        (run readers time disk (before ++ word :: behind)).ending = .exit 2) ∧
    ∀ (w : Slots l) (s : Setting) (option : List String), LogOption l s option →
      w.Indifferent s →
      ∀ i, parse (w.early word option) = .ok i ↔ parse (w.late word option) = .ok i := by
  refine ⟨fun before behind hbefore hboth hprogram hcommand =>
    refused_of_bothGiven hword hbefore hboth hprogram hcommand, ?_⟩
  intro w s option hoption hindifferent i
  obtain ⟨value, hprogram, hcommand⟩ := hoption.gives
  -- either direction starts from one accepted line, of which both lines are read
  have hboth : parse (w.early word option) = .ok i ∨ parse (w.late word option) = .ok i →
      (parse (w.early word option) = .ok i ↔ parse (w.late word option) = .ok i) := by
    intro h
    obtain ⟨lead, toCommand, fromCommand, rest, path, extras, hl, ht, hf, hr, hearly, hlate⟩ :=
      w.read hword hprogram hcommand h
    rw [hearly, hlate]
    obtain hs | rfl := hoption.setting
    · refine settle_volume hs ?_ i
      rw [List.map_append, List.map_append, hl, ht, hf, hr, ← optionsIn_append w.noSeparator.1,
        ← optionsIn_append w.noSeparator.2]
      exact hindifferent.volume hs
    · obtain ⟨htoCommand, hfromCommand⟩ := hindifferent.logFile rfl
      rw [settle_logFile (ht ▸ htoCommand) (hf ▸ hfromCommand)]
  exact ⟨fun h => (hboth (.inl h)).mp h, fun h => (hboth (.inr h)).mpr h⟩

end Moving

/-- A line with a log file, where the flag for more goes from in front of the command to
behind one of its options. -/
def checkSlots : Slots .check where
  lead := ["--log-file", "audit.log"]
  toCommand := []
  fromCommand := ["--format", "json"]
  rest := ["site"]
  lead_complete := by decide +kernel
  toCommand_complete := by decide +kernel
  fromCommand_complete := ⟨false, by decide +kernel, nofun⟩

/-- A line with the flag for more in front, where the log file goes the same way. -/
def fileSlots : Slots .check where
  lead := ["-v"]
  toCommand := []
  fromCommand := ["--format", "json"]
  rest := ["site"]
  lead_complete := by decide +kernel
  toCommand_complete := by decide +kernel
  fromCommand_complete := ⟨false, by decide +kernel, nofun⟩

theorem flags_exclude_check :
    (∀ readers time disk,
      (run readers time disk ["-v", "--quiet", "check", "."]).ending = .exit 2) ∧
      (∀ i,
        parse ["--log-file", "audit.log", "-v", "check", "--format", "json", "site"] = .ok i ↔
        parse ["--log-file", "audit.log", "check", "--format", "json", "-v", "site"] = .ok i) ∧
      ∀ option ∈ [["--log-file", "audit.log"], ["--log-file=audit.log"]], ∀ i,
        parse (["-v"] ++ option ++ ["check", "--format", "json", "site"]) = .ok i ↔
        parse (["-v", "check", "--format", "json"] ++ option ++ ["site"]) = .ok i := by
  have hword : ("check", Level.check) ∈ commandWords := by decide
  have hgiven : BothGiven .program ["-v", "--quiet"] := by
    unfold BothGiven
    decide +kernel
  have hindifferent : checkSlots.Indifferent .verbose := ⟨fun _ => by decide +kernel, nofun⟩
  have hfile : fileSlots.Indifferent .logFile :=
    ⟨fun h => absurd h (by decide), fun _ => by decide +kernel⟩
  obtain ⟨hrefused, hmoved⟩ := flags_exclude_at_one_level hword
  refine ⟨hrefused ["-v", "--quiet"] ["."] (by decide +kernel) (.inl hgiven) (by decide +kernel)
      (by decide +kernel),
    hmoved checkSlots .verbose ["-v"] (logOption_flag (by decide) (by decide)) hindifferent,
    fun option hoption => ?_⟩
  simp only [List.mem_cons, List.not_mem_nil, or_false] at hoption
  obtain rfl | rfl := hoption
  · have hplain : ∀ m ∈ [Level.program, .check], (classifyOne m "audit.log").toOption =
        some .plain := by decide +kernel
    exact hmoved fileSlots .logFile _
      (logOption_file fun m hm => eq_ok_of_toOption (hplain m hm)) hfile
  · exact hmoved fileSlots .logFile _ (logOption_joined .check "audit.log") hfile

theorem ending_of_accepted {args : List String} {i : Invocation} (h : parse args = .ok i)
    (readers : Readers) (time : String) (disk : Disk) :
    (run readers time disk args).ending ≠ .exit 2 := by
  have hperform : ∀ disk logged, (perform readers time disk logged i).ending ≠ .exit 2 := by
    intro disk logged
    unfold perform
    split
    · nofun
    · dsimp only
      split
      · split <;> nofun
      · dsimp only
        split <;> simp
  unfold run
  simp only [h]
  split
  · exact hperform _ _
  · split
    · nofun
    · exact hperform _ _

/-- **At two levels the flags do not exclude each other.** The flag for more in front of
the command and the one for less behind it are both taken, and moving the first behind
the command too makes it a misuse. -/
theorem flags_accepted_at_two_levels :
    .verbose ∈ optionsIn .program ["-v"] ∧ .quiet ∈ optionsIn .check ["-q"] ∧
      (parse ["-v", "check", "-q"]).toOption =
        some ⟨true, true, none, .check "." none .text .error⟩ ∧
      (∀ readers time disk, (run readers time disk ["-v", "check", "-q"]).ending ≠ .exit 2) ∧
      ∀ readers time disk,
        (run readers time disk ["check", "-v", "-q"]).ending = .exit 2 := by
  have haccepted : (parse ["-v", "check", "-q"]).toOption =
      some ⟨true, true, none, .check "." none .text .error⟩ := by decide +kernel
  have hword : ("check", Level.check) ∈ commandWords := by decide
  have hboth : BothGiven .check ["-v", "-q"] := by
    unfold BothGiven
    decide +kernel
  have hrefused : ∀ readers time disk,
      (run readers time disk ([] ++ "check" :: ["-v", "-q"])).ending = .exit 2 :=
    refused_of_bothGiven hword (by decide +kernel) (.inr hboth) (by decide +kernel)
      (by decide +kernel)
  exact ⟨by decide +kernel, by decide +kernel, haccepted,
    ending_of_accepted (eq_ok_of_toOption haccepted), hrefused⟩

end SiteAudit.Command
