import SiteAudit.Proofs.Command.Arguments

/-!
# Command lines

A command line is one of the program up to its command, and behind it one of the
command. The program looks at all arguments before it takes any of them, and the
command looks once more at its own.

* `classify_append`, `classify_classified`: what arguments are, one part after the other.
* `readProgram_append`: whole arguments in front of the command are read like those
  of a level that takes no word.
* `parse_line`: the parts of a line, read one after the other.
* `parse_line_faults`: who asks for help nowhere gets none.
-/
namespace SiteAudit.Command

/-! ## What arguments are -/

section Classify

variable {l : Level}

theorem classify_cons {arg : String} (h : arg ≠ "--") (more : List String) :
    classify l (arg :: more) =
      (classifyOne l arg).bind fun kind => (classify l more).map ((arg, kind) :: ·) := by
  rw [classify]
  · cases classifyOne l arg with
    | error e => rfl
    | ok kind => cases classify l more <;> rfl
  · exact h

theorem classify_append {args : List String} (h : "--" ∉ args) (more : List String) :
    classify l (args ++ more) =
      (classify l args).bind fun items => (classify l more).map (items ++ ·) := by
  induction args with
  | nil =>
    rw [List.nil_append, classify]
    cases classify l more <;> rfl
  | cons arg args ih =>
    obtain ⟨harg, hargs⟩ := not_or.mp (mt List.mem_cons.mpr h)
    rw [List.cons_append, classify_cons (Ne.symm harg), classify_cons (Ne.symm harg), ih hargs]
    cases classifyOne l arg with
    | error e => rfl
    | ok kind =>
      cases classify l args with
      | error e => rfl
      | ok items => cases classify l more <;> rfl

theorem classifyOne_faults (arg : String) : Faults Exit.IsMisuse (classifyOne l arg) := by
  unfold classifyOne
  split
  · exact .ok _
  · split
    · exact .ok _
    · split
      · exact .ok _
      · dsimp only
        split
        · exact .ok _
        · split
          · exact .ok _
          · exact .ok _
          · exact misuse_faults _ _

theorem classifyOne_ne_separator {arg : String} {kind : Kind} (h : classifyOne l arg = .ok kind) :
    kind ≠ .separator := by
  unfold classifyOne at h
  split at h
  · cases h
    nofun
  · split at h
    · cases h
      nofun
    · split at h
      · cases h
        nofun
      · dsimp only at h
        split at h
        · cases h
          nofun
        · split at h
          · cases h
            nofun
          · cases h
            split <;> nofun
          · cases h

/-- The settings that arguments speak about at a level, up to a separator. -/
def optionsIn (l : Level) (args : List String) : List Setting :=
  (args.takeWhile (· != "--")).flatMap fun arg =>
    match classifyOne l arg with
    | .ok kind => (kind.options l).map (·.1)
    | .error _ => []

/-- What is found out about arguments. -/
structure Classified (l : Level) (args : List String) (items : List (String × Kind)) : Prop where
  arguments : items.map (·.1) = args
  given : given l items = optionsIn l args
  plainBehind : PlainBehind items
  separator : ∀ x ∈ items, x.2 = .separator → x.1 = "--"

theorem classify_faults (args : List String) : Faults Exit.IsMisuse (classify l args) := by
  induction args with
  | nil => exact .ok _
  | cons arg args ih =>
    by_cases h : arg = "--"
    · subst h
      exact .ok _
    · rw [classify_cons h]
      exact Faults.bind (classifyOne_faults arg) fun kind => Faults.map ih _

theorem classify_classified {args : List String} {items : List (String × Kind)}
    (h : classify l args = .ok items) : Classified l args items := by
  induction args generalizing items with
  | nil =>
    cases h
    exact ⟨rfl, rfl, .nil, nofun⟩
  | cons arg args ih =>
    by_cases hseparator : arg = "--"
    · subst hseparator
      cases h
      have hplain : ∀ x ∈ args.map (fun a => (a, Kind.plain)), x.2 = .plain := by
        simp
      refine ⟨by simp [Function.comp_def], ?_, ?_, ?_⟩
      · rw [optionsIn, List.takeWhile_cons_of_neg (by simp)]
        exact (given_cons ..).trans (given_plain hplain)
      · exact List.pairwise_cons.mpr ⟨fun x hx _ => hplain x hx,
          List.pairwise_of_forall_mem_list fun x _ y hy _ => hplain y hy⟩
      · simp
    · rw [classify_cons hseparator] at h
      obtain ⟨kind, hkind, hrest⟩ := bind_eq_ok h
      obtain ⟨more, hmore, rfl⟩ := map_eq_ok hrest
      obtain ⟨harguments, hgiven, hplain, hsep⟩ := ih hmore
      have hne := classifyOne_ne_separator hkind
      refine ⟨by simp [harguments], ?_, ?_, ?_⟩
      · have htake : (arg :: args).takeWhile (· != "--") = arg :: args.takeWhile (· != "--") :=
          List.takeWhile_cons_of_pos (by simpa using hseparator)
        rw [optionsIn, htake, List.flatMap_cons, hkind, ← optionsIn, ← hgiven]
        rfl
      · exact List.pairwise_cons.mpr ⟨fun x _ h => absurd h hne, hplain⟩
      · rintro x hx hx'
        obtain rfl | hx := List.mem_cons.mp hx
        · exact absurd hx' hne
        · exact hsep x hx hx'

theorem Classified.head_ne_separator {args : List String} {items : List (String × Kind)}
    (h : Classified l args items) (hargs : args.head? ≠ some "--") :
    ∀ x ∈ items.head?, x.2 ≠ .separator := by
  intro x hx hkind
  refine hargs ?_
  rw [← h.arguments, List.head?_map, hx, Option.map_some,
    h.separator x (List.mem_of_mem_head? hx) hkind]

/-- Arguments that are whole in themselves, with no separator. With `words`, plain
words may stand among them. -/
def complete (l : Level) (words : Bool) (args : List String) : Bool :=
  !args.contains "--" &&
    match classify l args with
    | .ok items => whole l words items
    | .error _ => true

theorem complete_iff {words : Bool} {args : List String} :
    complete l words args = true ↔
      "--" ∉ args ∧ ∀ items, classify l args = .ok items → whole l words items = true := by
  unfold complete
  cases classify l args with
  | error e => simp
  | ok items => simp

theorem complete_append {args more : List String} (h : complete l words args = true)
    (hmore : complete l words more = true) : complete l words (args ++ more) = true := by
  rw [complete_iff] at h hmore ⊢
  refine ⟨by simp [h.1, hmore.1], fun items hitems => ?_⟩
  rw [classify_append h.1] at hitems
  obtain ⟨front, hfront, hmap⟩ := bind_eq_ok hitems
  obtain ⟨rest, hrest, rfl⟩ := map_eq_ok hmap
  exact whole_append (h.2 front hfront) (hmore.2 rest hrest)

end Classify

/-! ## Up to the command -/

/-- **Whole arguments in front of a word** are read like those of a level that takes
no word, and the word names the command. -/
theorem readProgram_append {items : List (String × Kind)}
    (h : whole .program false items = true) {k : Nat} (hk : items.length < k) (word : String)
    (behind : List (String × Kind)) (g : Given) (path : Option String) (extras : List String) :
    readProgram g extras k (items ++ (word, .plain) :: behind) =
      (readItems .program false (g, path, extras) items).bind fun r =>
        readProgram r.1 r.2.2 1 ((word, .plain) :: behind) := by
  induction items using whole.induct .program generalizing k g extras with
  | case1 =>
    obtain ⟨k, rfl⟩ : ∃ j, k = j + 1 := ⟨k - 1, by omega⟩
    rfl
  | case2 arg kind hwants => simp [whole, hwants] at h
  | case3 arg kind hwants w rest ih =>
    obtain ⟨s, name, value, rfl⟩ := wantsWord_option hwants
    simp only [whole, hwants, if_true] at h
    obtain ⟨k, rfl⟩ : ∃ j, k = j + 1 := ⟨k - 1, by omega⟩
    simp only [List.length_cons] at hk
    simp only [List.cons_append, readProgram, bind, readItems_option, readOption_eq, plainNext,
      hwants]
    cases spelled .program s name value (some w) with
    | error e => rfl
    | ok opts =>
      dsimp only [Except.bind]
      cases applyAll .program g opts with
      | error e => rfl
      | ok a => exact ih h (by omega) _ _
  | case4 arg kind hwants more hnil hword ih =>
    obtain ⟨s, name, value, rfl⟩ := wantsWord_option hwants
    obtain ⟨message, herror⟩ := spelled_unmet hwants
    obtain ⟨k, rfl⟩ : ∃ j, k = j + 1 := ⟨k - 1, by omega⟩
    simp only [List.cons_append, readProgram, bind, readItems_option, readOption_eq,
      plainNext_append hnil, plainNext_eq_none hword, herror]
    rfl
  | case5 arg kind more hwants ih =>
    have hwants : kind.wantsWord .program = false := Bool.eq_false_iff.mpr hwants
    obtain ⟨k, rfl⟩ : ∃ j, k = j + 1 := ⟨k - 1, by omega⟩
    simp only [List.length_cons] at hk
    unfold whole at h
    simp only [hwants, Bool.false_eq_true, if_false, Bool.and_eq_true] at h
    obtain ⟨⟨hseparator, hplain⟩, hmore⟩ := h
    cases kind with
    | separator => cases hseparator
    | plain => cases hplain
    | unknown => exact ih hmore (by omega) _ _
    | option s name value =>
      simp only [List.cons_append, readProgram, bind, readItems_option, readOption_eq, hwants,
        spelled_alone hwants (plainNext _)]
      cases spelled .program s name value none with
      | error e => rfl
      | ok opts =>
        dsimp only [Except.bind]
        cases applyAll .program g opts with
        | error e => rfl
        | ok a => exact ih hmore (by omega) _ _

/-! ## Whole lines -/

/-- What a command is asked for by what is set and by the word that it has taken. -/
def requested (l : Level) (g : Given) (path : Option String) : Request :=
  match l with
  | .serve => .serve g.host g.port
  | _ => .check (path.getD ".") g.config g.format g.failOn

def readBehind (l : Level) (g : Given) (extras : List String) (items : List (String × Kind)) :
    Except Exit Invocation :=
  (readItems l (l == .check) ({ g with seen := [] }, none, []) items).bind fun r =>
    finish r.1 (some (requested l r.1 r.2.1)) (extras ++ r.2.2)

/-- What a line comes to, if it is known what its arguments are. -/
def readLine (l : Level) (found items : List (String × Kind)) : Except Exit Invocation :=
  (readItems .program false ({}, none, []) found).bind fun r => readBehind l r.1 r.2.2 items

theorem readProgram_word {word : String} {l : Level} (h : (word, l) ∈ commandWords) (g : Given)
    (extras : List String) (behind : List (String × Kind)) :
    readProgram g extras 1 ((word, .plain) :: behind) =
      (classify l (behind.map (·.1))).bind (readBehind l g extras) := by
  have hchoose : choose .program "argument command" commandWords word = .ok l := by
    simp only [commandWords, List.mem_cons, Prod.mk.injEq, List.not_mem_nil, or_false] at h
    obtain ⟨rfl, rfl⟩ | ⟨rfl, rfl⟩ := h <;> rfl
  simp only [readProgram, hchoose, command, bind, Except.bind]
  cases classify l (behind.map (·.1)) with
  | error e => rfl
  | ok items =>
    simp only [readBehind, readItems, Except.bind]
    cases readCommand l (l == .check) { g with seen := [] } none [] (items.length + 1) items with
    | error e => rfl
    | ok r => cases l <;> rfl

theorem classifyOne_word {word : String} {l : Level} (h : (word, l) ∈ commandWords) (m : Level) :
    classifyOne m word = .ok .plain ∧ word ≠ "--" := by
  have hdash : ∀ x ∈ commandWords, x.1.startsWith "-" = false ∧ x.1 ≠ "--" := by decide +kernel
  obtain ⟨hstart, hseparator⟩ := hdash _ h
  exact ⟨by simp [classifyOne, hstart], hseparator⟩

/-- **A line is read up to its command, and then its rest by the command.** -/
theorem parse_line {word : String} {l : Level} (hword : (word, l) ∈ commandWords)
    {before : List String} (hbefore : complete .program false before = true)
    (behind : List String) :
    parse (before ++ word :: behind) =
      (classify .program before).bind fun found =>
      (classify .program behind).bind fun _ =>
      (readItems .program false ({}, none, []) found).bind fun r =>
      (classify l behind).bind (readBehind l r.1 r.2.2) := by
  obtain ⟨hseparator, hwhole⟩ := complete_iff.mp hbefore
  obtain ⟨hplain, hne⟩ := classifyOne_word hword .program
  rw [parse, classify_append hseparator, classify_cons hne, hplain]
  cases hfound : classify .program before with
  | error e => rfl
  | ok found =>
    dsimp only [bind, Except.bind]
    cases hbehind : classify .program behind with
    | error e => rfl
    | ok items =>
      have harguments := (classify_classified hbehind).arguments
      have hlength : found.length < (found ++ (word, .plain) :: items).length + 1 := by
        rw [List.length_append]
        omega
      simp only [Except.map]
      rw [readProgram_append (hwhole found hfound) hlength word items {} none []]
      simp only [readProgram_word hword, harguments]
      rfl

section Lines

variable {word : String} {l : Level} {before behind : List String}

theorem parse_line_ok (hword : (word, l) ∈ commandWords)
    (hbefore : complete .program false before = true) {i : Invocation}
    (h : parse (before ++ word :: behind) = .ok i) :
    ∃ found known items, classify .program before = .ok found ∧
      classify .program behind = .ok known ∧ classify l behind = .ok items ∧
      readLine l found items = .ok i := by
  rw [parse_line hword hbefore] at h
  obtain ⟨found, hfound, h⟩ := bind_eq_ok h
  obtain ⟨known, hknown, h⟩ := bind_eq_ok h
  obtain ⟨r, hr, h⟩ := bind_eq_ok h
  obtain ⟨items, hitems, h⟩ := bind_eq_ok h
  refine ⟨found, known, items, hfound, hknown, hitems, ?_⟩
  rw [readLine, hr]
  exact h

theorem parse_line_eq (hword : (word, l) ∈ commandWords)
    (hbefore : complete .program false before = true) {found known items : List (String × Kind)}
    (hfound : classify .program before = .ok found)
    (hknown : classify .program behind = .ok known) (hitems : classify l behind = .ok items) :
    parse (before ++ word :: behind) = readLine l found items := by
  rw [parse_line hword hbefore, hfound, hknown, hitems]
  rfl

theorem readLine_ok {found items : List (String × Kind)} {i : Invocation}
    (h : readLine l found items = .ok i) :
    ∃ r q, readItems .program false ({}, none, []) found = .ok r ∧
      readItems l (l == .check) ({ r.1 with seen := [] }, none, []) items = .ok q := by
  obtain ⟨r, hr, hbehind⟩ := bind_eq_ok h
  obtain ⟨q, hq, -⟩ := bind_eq_ok hbehind
  exact ⟨r, q, hr, hq⟩

theorem finish_faults (g : Given) (request : Option Request) (extras : List String) :
    Faults Exit.IsMisuse (finish g request extras) := by
  unfold finish
  split
  · exact misuse_faults _ _
  · split
    · exact .ok _
    · exact misuse_faults _ _

/-- **Who asks for help nowhere gets none.** -/
theorem parse_line_faults (hword : (word, l) ∈ commandWords)
    (hbefore : complete .program false before = true) (hprogram : .help ∉ optionsIn .program before)
    (hcommand : .help ∉ optionsIn l behind) :
    Faults Exit.IsMisuse (parse (before ++ word :: behind)) := by
  rw [parse_line hword hbefore]
  refine Faults.bind_ok (classify_faults before) fun found hfound => ?_
  refine Faults.bind_ok (classify_faults behind) fun _ _ => ?_
  rw [← (classify_classified hfound).given] at hprogram
  refine Faults.bind_ok (readCommand_faults _ _ _ _ hprogram) fun r _ => ?_
  refine Faults.bind_ok (classify_faults behind) fun items hitems => ?_
  rw [← (classify_classified hitems).given] at hcommand
  exact Faults.bind_ok (readCommand_faults _ _ _ _ hcommand) fun _ _ => finish_faults _ _ _

end Lines

end SiteAudit.Command
