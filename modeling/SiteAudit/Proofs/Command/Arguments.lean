import SiteAudit.Proofs.Command.Stages

/-!
# What the arguments of a level say

The arguments of a level are read one after the other, an option that wants a value
together with the word behind it. Which options they give and what becomes of the
other words does not depend on what is set already: that only decides whether the
options are refused.

* `readItems_ok`: arguments that are accepted give some options, the same ones
  whatever is set before, and what they set is what these options set (`Reads`).
* `readCommand_faults`: who does not ask for help gets none.
* `readItems_append`, `Reads.append`: arguments that are whole in themselves (`whole`)
  are read before what is behind them, without a look at it.
-/
namespace SiteAudit

namespace Command

/-! ## The options of an argument -/

/-- The options that an argument gives, each with the value that it brings along. -/
def Kind.options (l : Level) : Kind → List (Setting × Option String)
  | .option s name value =>
    (joined l s name value ((value.getD "").length + 1)).toOption.getD []
  | _ => []

/-- Whether the last option of an argument has its value in the word behind. -/
def Kind.wantsWord (l : Level) (k : Kind) : Bool :=
  match (k.options l).getLast? with
  | some (s, none) => s.takesValue
  | _ => false

/-- The settings that some arguments speak about. -/
def given (l : Level) (items : List (String × Kind)) : List Setting :=
  items.flatMap fun x => (x.2.options l).map (·.1)

theorem given_cons (l : Level) (x : String × Kind) (items : List (String × Kind)) :
    given l (x :: items) = (x.2.options l).map (·.1) ++ given l items := rfl

/-- The options of an option argument with all their values; `next` is the word
behind it, if that is plain. -/
def spelled (l : Level) (s : Setting) (name : String) (value next : Option String) :
    Except Exit (List (Setting × Option String)) := do
  let parts ← joined l s name value ((value.getD "").length + 1)
  match parts.getLast? with
  | some (last, none) =>
    if last.takesValue then
      match next with
      | none => .error (.misuse l (last.shown ++ ": expected one argument"))
      | some v => .ok (parts.dropLast ++ [(last, some v)])
    else .ok parts
  | _ => .ok parts

section Spelling

variable {l : Level} {s : Setting} {name : String} {value : Option String}

theorem options_of_joined {parts : List (Setting × Option String)}
    (h : joined l s name value ((value.getD "").length + 1) = .ok parts) :
    (Kind.option s name value).options l = parts := by
  simp only [Kind.options, h, Except.toOption, Option.getD_some]

theorem readOption_eq (g : Given) (next : Option String) :
    readOption l g s name value next =
      (spelled l s name value next).bind fun opts =>
        (applyAll l g opts).map (·, (Kind.option s name value).wantsWord l) := by
  unfold readOption spelled
  cases hparts : joined l s name value ((value.getD "").length + 1) with
  | error e => rfl
  | ok parts =>
    simp only [bind, Except.bind, Kind.wantsWord, options_of_joined hparts]
    rcases parts.getLast? with _ | ⟨last, _ | v⟩
    · dsimp only
      cases applyAll l g parts <;> rfl
    · cases hvalue : last.takesValue with
      | false =>
        simp only [hvalue, Bool.false_eq_true, if_false]
        cases applyAll l g parts <;> rfl
      | true =>
        cases next with
        | none =>
          simp only [hvalue, if_true]
          rfl
        | some v =>
          simp only [hvalue, if_true]
          cases applyAll l g (parts.dropLast ++ [(last, some v)]) <;> rfl
    · dsimp only
      cases applyAll l g parts <;> rfl

theorem spelled_alone (h : (Kind.option s name value).wantsWord l = false)
    (next : Option String) : spelled l s name value next = spelled l s name value none := by
  unfold spelled
  cases hparts : joined l s name value ((value.getD "").length + 1) with
  | error e => rfl
  | ok parts =>
    simp only [Kind.wantsWord, options_of_joined hparts] at h
    simp only [bind, Except.bind]
    rcases hlast : parts.getLast? with _ | ⟨last, _ | v⟩
    · rfl
    · rw [hlast] at h
      simp only [h]
      rfl
    · rfl

theorem spelled_unmet (h : (Kind.option s name value).wantsWord l = true) :
    ∃ message, spelled l s name value none = .error (.misuse l message) := by
  unfold spelled
  cases hparts : joined l s name value ((value.getD "").length + 1) with
  | error e =>
    simp [Kind.wantsWord, Kind.options, hparts, Except.toOption] at h
  | ok parts =>
    simp only [Kind.wantsWord, options_of_joined hparts] at h
    simp only [bind, Except.bind]
    rcases hlast : parts.getLast? with _ | ⟨last, _ | v⟩
    · simp [hlast] at h
    · rw [hlast] at h
      exact ⟨_, by simp only [h, if_true]; rfl⟩
    · simp [hlast] at h

theorem plainNext_ne_none {next : Option String} {opts : List (Setting × Option String)}
    (h : spelled l s name value next = .ok opts)
    (hwants : (Kind.option s name value).wantsWord l = true) : next ≠ none := by
  rintro rfl
  obtain ⟨message, herror⟩ := spelled_unmet hwants
  rw [herror] at h
  cases h

theorem spelled_settings {next : Option String} {opts : List (Setting × Option String)}
    (h : spelled l s name value next = .ok opts) :
    opts.map (·.1) = ((Kind.option s name value).options l).map (·.1) := by
  unfold spelled at h
  cases hparts : joined l s name value ((value.getD "").length + 1) with
  | error e => simp [hparts, bind, Except.bind] at h
  | ok parts =>
    rw [options_of_joined hparts]
    simp only [hparts, bind, Except.bind] at h
    split at h
    · rename_i last hlast
      split at h
      · split at h
        · cases h
        · cases h
          -- only the value of the last one is new
          obtain ⟨front, rfl⟩ := List.getLast?_eq_some_iff.mp hlast
          simp
      · cases h
        rfl
    · cases h
      rfl

end Spelling

/-! ### Misuse -/

/-- A question for help is no misuse. -/
def Exit.IsMisuse (e : Exit) : Prop := ∃ l message, e = .misuse l message

theorem misuse_faults {α : Type} (l : Level) (message : String) :
    Faults Exit.IsMisuse (.error (.misuse l message) : Except Exit α) := by
  rintro e ⟨⟩
  exact ⟨l, message, rfl⟩

theorem joined_faults (l : Level) (s : Setting) (name : String) (value : Option String) (k : Nat) :
    Faults Exit.IsMisuse (joined l s name value k) := by
  induction k generalizing s name value with
  | zero => exact .ok _
  | succ k ih =>
    unfold joined
    dsimp only
    split
    · exact .ok _
    · split
      · exact .ok _
      · split
        · exact misuse_faults _ _
        · split
          · exact misuse_faults _ _
          · split
            · exact misuse_faults _ _
            · exact Faults.bind (ih _ _ _) fun _ => .ok _

theorem spelled_faults (l : Level) (s : Setting) (name : String) (value next : Option String) :
    Faults Exit.IsMisuse (spelled l s name value next) := by
  refine Faults.bind (joined_faults _ _ _ _ _) fun parts => ?_
  split
  · split
    · split
      · exact misuse_faults _ _
      · exact .ok _
    · exact .ok _
  · exact .ok _

theorem choose_faults {α : Type} (l : Level) (shown : String) (words : List (String × α))
    (word : String) : Faults Exit.IsMisuse (choose l shown words word) := by
  unfold choose
  split
  · exact .ok _
  · exact misuse_faults _ _

theorem refuseBoth_faults (l : Level) (g : Given) (s other : Setting) :
    Faults Exit.IsMisuse (refuseBoth l g s other) := by
  unfold refuseBoth
  split
  · exact misuse_faults _ _
  · exact .ok _

theorem apply_faults (l : Level) (g : Given) {s : Setting} (h : s ≠ .help) (value : String) :
    Faults Exit.IsMisuse (apply l g s value) := by
  cases s with
  | help => exact absurd rfl h
  | verbose | quiet => exact Faults.bind (refuseBoth_faults _ _ _ _) fun _ => .ok _
  | logFile | config | host => exact .ok _
  | format | failOn =>
    unfold apply
    dsimp only
    split
    · exact .ok _
    · exact Faults.map (choose_faults _ _ _ _) _
  | port =>
    unfold apply
    dsimp only
    split
    · exact .ok _
    · split
      · exact .ok _
      · exact misuse_faults _ _

theorem applyAll_faults (l : Level) (g : Given) {opts : List (Setting × Option String)}
    (h : .help ∉ opts.map (·.1)) : Faults Exit.IsMisuse (applyAll l g opts) := by
  induction opts generalizing g with
  | nil => exact .ok _
  | cons x opts ih =>
    obtain ⟨hx, hopts⟩ := not_or.mp (mt List.mem_cons.mpr h)
    exact Faults.bind (apply_faults l g (Ne.symm hx) _) fun a => ih a hopts

/-! ## Reading -/

/-- What reading some arguments leaves: what is set, and the rest, the word that the
command has taken and those that found no use. -/
abbrev Left := Given × Option String × List String

/-- Reads arguments from what is left by those in front. -/
def readItems (l : Level) (takesPath : Bool) (r : Left) (items : List (String × Kind)) :
    Except Exit Left :=
  readCommand l takesPath r.1 r.2.1 r.2.2 (items.length + 1) items

section Reading

variable {l : Level} {takesPath : Bool}

theorem length_behind_le (used : Bool) (more : List (String × Kind)) :
    (if used then more.drop 1 else more).length ≤ more.length := by
  cases used <;> simp

/-- There is always fuel enough. -/
theorem readCommand_fuel {k k' : Nat} {items : List (String × Kind)} (g : Given)
    (path : Option String) (extras : List String) (hk : items.length < k)
    (hk' : items.length < k') :
    readCommand l takesPath g path extras k items =
      readCommand l takesPath g path extras k' items := by
  induction k generalizing k' items g path extras with
  | zero => exact absurd hk (Nat.not_lt_zero _)
  | succ k ih =>
    obtain ⟨k', rfl⟩ : ∃ j, k' = j + 1 := ⟨k' - 1, by omega⟩
    cases items with
    | nil => rfl
    | cons item more =>
      obtain ⟨arg, kind⟩ := item
      simp only [List.length_cons] at hk hk'
      cases kind with
      | option s name value =>
        unfold readCommand
        dsimp only
        cases readOption l g s name value (plainNext more) with
        | error e => rfl
        | ok r =>
          obtain ⟨a, used⟩ := r
          have hlength := length_behind_le used more
          exact ih a path extras (Nat.lt_of_le_of_lt hlength (by omega))
            (Nat.lt_of_le_of_lt hlength (by omega))
      | unknown => exact ih _ _ _ (by omega) (by omega)
      | plain =>
        unfold readCommand
        dsimp only
        split
        · refine ih _ _ _ ?_ ?_ <;> split <;> simp_all <;> omega
        · exact ih _ _ _ (by omega) (by omega)
      | separator =>
        unfold readCommand
        dsimp only
        split
        · split
          · simp only [List.length_cons] at hk hk'
            exact ih _ _ _ (by omega) (by omega)
          · rfl
        · rfl

theorem readItems_option (r : Left) (arg : String) (s : Setting) (name : String)
    (value : Option String) (more : List (String × Kind)) :
    readItems l takesPath r ((arg, .option s name value) :: more) =
      (readOption l r.1 s name value (plainNext more)).bind fun x =>
        readItems l takesPath (x.1, r.2) (if x.2 then more.drop 1 else more) := by
  unfold readItems
  rw [List.length_cons, readCommand]
  refine bind_congr fun x => ?_
  exact readCommand_fuel _ _ _ (Nat.lt_succ_of_le (length_behind_le ..)) (Nat.lt_succ_self _)

theorem readItems_unknown (r : Left) (arg : String) (more : List (String × Kind)) :
    readItems l takesPath r ((arg, .unknown) :: more) =
      readItems l takesPath (r.1, r.2.1, r.2.2 ++ [arg]) more := rfl

theorem readItems_plain (r : Left) (arg : String) {more : List (String × Kind)}
    (h : ∀ x ∈ more.head?, x.2 ≠ .separator) :
    readItems l takesPath r ((arg, .plain) :: more) =
      if takesPath && r.2.1.isNone then readItems l takesPath (r.1, some arg, r.2.2) more
      else readItems l takesPath (r.1, r.2.1, r.2.2 ++ [arg]) more := by
  unfold readItems
  rw [List.length_cons, readCommand]
  rintro w rest rfl
  exact h (w, .separator) rfl rfl

/-! ### What is accepted -/

/-- Arguments that give some options whatever is set before, and leave some words. -/
structure Reads (l : Level) (takesPath : Bool) (rest : Option String × List String)
    (items : List (String × Kind)) (opts : List (Setting × Option String))
    (rest' : Option String × List String) : Prop where
  settings : opts.map (·.1) = given l items
  read : ∀ a, readItems l takesPath (a, rest) items = (applyAll l a opts).map (·, rest')

/-- Behind a separator there are plain words only. -/
def PlainBehind (items : List (String × Kind)) : Prop :=
  items.Pairwise fun x y => x.2 = .separator → y.2 = .plain

theorem given_plain {items : List (String × Kind)} (h : ∀ x ∈ items, x.2 = .plain) :
    given l items = [] := by
  simp only [given, List.flatMap_eq_nil_iff]
  intro x hx
  rw [h x hx]
  rfl

theorem applyAll_append (g : Given) (opts more : List (Setting × Option String)) :
    applyAll l g (opts ++ more) = (applyAll l g opts).bind (applyAll l · more) := by
  induction opts generalizing g with
  | nil => rfl
  | cons x opts ih =>
    obtain ⟨s, value⟩ := x
    simp only [List.cons_append, applyAll, bind]
    cases apply l g s (value.getD "") with
    | error e => rfl
    | ok g => exact ih g

theorem given_behind {used : Bool} {more : List (String × Kind)}
    (h : used = true → plainNext more ≠ none) :
    given l (if used then more.drop 1 else more) = given l more := by
  cases used with
  | false => rfl
  | true =>
    match more, h rfl with
    | (w, .plain) :: rest, _ => rfl

theorem PlainBehind.behind {more : List (String × Kind)} (h : PlainBehind more) (used : Bool) :
    PlainBehind (if used then more.drop 1 else more) := by
  cases used with
  | false => exact h
  | true => exact h.sublist (List.drop_sublist 1 more)

/-- **What is accepted gives some options**, and all else in it does not depend on
what is set before. -/
theorem readCommand_ok {k : Nat} {items : List (String × Kind)} {g g' : Given}
    {path path' : Option String} {extras extras' : List String} (hk : items.length < k)
    (hplain : PlainBehind items)
    (h : readCommand l takesPath g path extras k items = .ok (g', path', extras')) :
    ∃ opts, opts.map (·.1) = given l items ∧ applyAll l g opts = .ok g' ∧
      ∀ a, readCommand l takesPath a path extras k items =
        (applyAll l a opts).map (·, path', extras') := by
  induction k generalizing items g path extras with
  | zero => exact absurd hk (Nat.not_lt_zero _)
  | succ k ih =>
    cases items with
    | nil =>
      cases h
      exact ⟨[], rfl, rfl, fun a => rfl⟩
    | cons item more =>
      obtain ⟨arg, kind⟩ := item
      obtain ⟨hhead, hmore⟩ := List.pairwise_cons.mp hplain
      simp only [List.length_cons, Nat.add_lt_add_iff_right] at hk
      cases kind with
      | unknown => exact ih hk hmore h
      | option s name value =>
        simp only [readCommand, bind, readOption_eq] at h ⊢
        obtain ⟨⟨a, used⟩, hoption, hrest⟩ := bind_eq_ok h
        obtain ⟨opts, hspelled, happly⟩ := bind_eq_ok hoption
        obtain ⟨a', ha, hused⟩ := map_eq_ok happly
        cases hused
        have hword := plainNext_ne_none hspelled
        obtain ⟨opts', hsettings, happly', hread⟩ :=
          ih (Nat.lt_of_le_of_lt (length_behind_le _ more) hk) (PlainBehind.behind hmore _) hrest
        refine ⟨opts ++ opts', ?_, ?_, fun b => ?_⟩
        · rw [List.map_append, spelled_settings hspelled, hsettings, given_behind hword]
          rfl
        · rw [applyAll_append, ha]
          exact happly'
        · rw [hspelled, applyAll_append]
          simp only [Except.bind]
          cases applyAll l b opts with
          | error e => rfl
          | ok b => exact hread b
      | plain =>
        unfold readCommand at h ⊢
        by_cases hpath : (takesPath && path.isNone) = true
        · simp only [hpath, if_true] at h ⊢
          split at h
          · rename_i w rest
            obtain ⟨-, hrest⟩ := List.pairwise_cons.mp hmore
            exact ih (Nat.lt_of_succ_lt hk) hrest h
          · exact ih hk hmore h
        · simp only [hpath, if_false, Bool.false_eq_true] at h ⊢
          exact ih hk hmore h
      | separator =>
        have hnone : given l more = [] := given_plain fun x hx => hhead x hx rfl
        unfold readCommand at h ⊢
        by_cases hpath : (takesPath && path.isNone) = true
        · simp only [hpath, if_true] at h ⊢
          cases more with
          | nil =>
            cases h
            exact ⟨[], rfl, rfl, fun a => rfl⟩
          | cons x rest =>
            obtain ⟨-, hrest⟩ := List.pairwise_cons.mp hmore
            obtain ⟨opts, hsettings, hread⟩ := ih (Nat.lt_of_succ_lt hk) hrest h
            have hx : x.2 = .plain := hhead x (List.mem_cons_self ..) rfl
            refine ⟨opts, ?_, hread⟩
            rw [hsettings]
            simp [given, hx, Kind.options]
        · simp only [hpath, if_false, Bool.false_eq_true] at h ⊢
          cases h
          exact ⟨[], hnone.symm, rfl, fun a => rfl⟩

theorem readItems_ok {items : List (String × Kind)} {r r' : Left} (hplain : PlainBehind items)
    (h : readItems l takesPath r items = .ok r') :
    ∃ opts, Reads l takesPath r.2 items opts r'.2 ∧ applyAll l r.1 opts = .ok r'.1 := by
  obtain ⟨opts, hsettings, happly, hread⟩ := readCommand_ok (Nat.lt_succ_self _) hplain h
  exact ⟨opts, ⟨hsettings, hread⟩, happly⟩

/-- **Only who asks for help gets help.** -/
theorem readCommand_faults (k : Nat) {items : List (String × Kind)} (g : Given)
    (path : Option String) (extras : List String) (h : .help ∉ given l items) :
    Faults Exit.IsMisuse (readCommand l takesPath g path extras k items) := by
  induction k generalizing items g path extras with
  | zero => exact .ok _
  | succ k ih =>
    cases items with
    | nil => exact .ok _
    | cons item more =>
      obtain ⟨arg, kind⟩ := item
      obtain ⟨hhead, hmore⟩ : .help ∉ (kind.options l).map (·.1) ∧ .help ∉ given l more :=
        not_or.mp (mt List.mem_append.mpr h)
      cases kind with
      | unknown => exact ih _ _ _ hmore
      | option s name value =>
        unfold readCommand
        dsimp only
        rw [readOption_eq]
        cases hspelled : spelled l s name value (plainNext more) with
        | error e =>
          rintro e' ⟨⟩
          exact spelled_faults _ _ _ _ _ e hspelled
        | ok opts =>
          rw [← spelled_settings hspelled] at hhead
          have hbehind := given_behind (l := l) (plainNext_ne_none hspelled)
          dsimp only [bind, Except.bind]
          cases happly : applyAll l g opts with
          | error e =>
            rintro e' ⟨⟩
            exact applyAll_faults l g hhead e happly
          | ok a => exact ih a _ _ (hbehind ▸ hmore)
      | plain =>
        unfold readCommand
        dsimp only
        split
        · split
          · exact ih _ _ _ hmore
          · exact ih _ _ _ hmore
        · exact ih _ _ _ hmore
      | separator =>
        unfold readCommand
        dsimp only
        split
        · split
          · exact ih _ _ _ (fun hmem => hmore (List.mem_append_right _ hmem))
          · exact .ok _
        · exact .ok _

/-! ### One part after the other -/

/-- Whether arguments are whole in themselves: each option that wants a word has one
or is refused. With `words`, plain words may stand among them. -/
def whole (l : Level) (words : Bool) : List (String × Kind) → Bool
  | [] => true
  | (_, kind) :: more =>
    if kind.wantsWord l then
      match more with
      | [] => false
      | (_, .plain) :: rest => whole l words rest
      | more => whole l words more
    else kind != .separator && (words || kind != .plain) && whole l words more

theorem wantsWord_option {kind : Kind} (h : kind.wantsWord l = true) :
    ∃ s name value, kind = .option s name value := by
  cases kind with
  | option s name value => exact ⟨s, name, value, rfl⟩
  | plain | separator | unknown => simp [Kind.wantsWord, Kind.options] at h

theorem plainNext_eq_none {more : List (String × Kind)}
    (h : ∀ w rest, more = (w, .plain) :: rest → False) : plainNext more = none := by
  match more, h with
  | [], _ => rfl
  | (w, .plain) :: rest, h => exact (h w rest rfl).elim
  | (_, .separator) :: _, _ | (_, .option ..) :: _, _ | (_, .unknown) :: _, _ => rfl

theorem plainNext_append {more : List (String × Kind)} (h : more ≠ [])
    (behind : List (String × Kind)) : plainNext (more ++ behind) = plainNext more := by
  match more with
  | [] => exact absurd rfl h
  | (_, .plain) :: _ | (_, .separator) :: _ | (_, .option ..) :: _ | (_, .unknown) :: _ => rfl

theorem whole_head {words : Bool} {items : List (String × Kind)} (h : whole l words items = true) :
    ∀ x ∈ items.head?, x.2 ≠ .separator := by
  cases items with
  | nil => simp
  | cons item more =>
    obtain ⟨arg, kind⟩ := item
    rintro _ ⟨⟩ rfl
    unfold whole at h
    simp [Kind.wantsWord, Kind.options] at h

theorem whole_unmet {arg : String} {kind : Kind} {more : List (String × Kind)}
    (hwants : kind.wantsWord l = true) (hnil : more ≠ []) (hnone : plainNext more = none) :
    whole l words ((arg, kind) :: more) = whole l words more := by
  match more with
  | [] => exact absurd rfl hnil
  | (_, .plain) :: _ => cases hnone
  | (_, .separator) :: _ | (_, .option ..) :: _ | (_, .unknown) :: _ =>
    rw [whole, if_pos hwants]
    all_goals nofun

theorem whole_append {items more : List (String × Kind)} (h : whole l words items = true)
    (hmore : whole l words more = true) : whole l words (items ++ more) = true := by
  induction items using whole.induct l with
  | case1 => exact hmore
  | case2 arg kind hwants => simp [whole, hwants] at h
  | case3 arg kind hwants w rest ih =>
    simp only [whole, hwants, if_true] at h
    simpa only [List.cons_append, whole, hwants, if_true] using ih h
  | case4 arg kind hwants rest hnil hword ih =>
    have hnone := plainNext_eq_none hword
    rw [whole_unmet hwants hnil hnone] at h
    rw [List.cons_append, whole_unmet hwants (List.append_ne_nil_of_left_ne_nil hnil more)
      ((plainNext_append hnil more).trans hnone)]
    exact ih h
  | case5 arg kind rest hwants ih =>
    have hwants : kind.wantsWord l = false := Bool.eq_false_iff.mpr hwants
    rw [List.cons_append]
    unfold whole at h ⊢
    simp only [hwants, Bool.false_eq_true, if_false, Bool.and_eq_true] at h ⊢
    exact ⟨h.1, ih h.2⟩

/-- **Whole arguments are read before what is behind them**, without a look at it. Only
a plain word uses up a separator that stands right behind. -/
theorem readItems_append {words : Bool} {items : List (String × Kind)}
    (h : whole l words items = true) {behind : List (String × Kind)}
    (hbehind : words = true → ∀ x ∈ behind.head?, x.2 ≠ .separator) (r : Left) :
    readItems l takesPath r (items ++ behind) =
      (readItems l takesPath r items).bind (readItems l takesPath · behind) := by
  induction items using whole.induct l generalizing r with
  | case1 => rfl
  | case2 arg kind hwants => simp [whole, hwants] at h
  | case3 arg kind hwants w rest ih =>
    obtain ⟨s, name, value, rfl⟩ := wantsWord_option hwants
    simp only [whole, hwants, if_true] at h
    simp only [List.cons_append, readItems_option, readOption_eq, plainNext, hwants]
    cases spelled l s name value (some w) with
    | error e => rfl
    | ok opts =>
      dsimp only [Except.bind]
      cases applyAll l r.1 opts with
      | error e => rfl
      | ok a => exact ih h _
  | case4 arg kind hwants more hnil hword ih =>
    obtain ⟨s, name, value, rfl⟩ := wantsWord_option hwants
    obtain ⟨message, herror⟩ := spelled_unmet hwants
    simp only [List.cons_append, readItems_option, readOption_eq, plainNext_append hnil,
      plainNext_eq_none hword, herror]
    rfl
  | case5 arg kind more hwants ih =>
    have hwants : kind.wantsWord l = false := Bool.eq_false_iff.mpr hwants
    unfold whole at h
    simp only [hwants, Bool.false_eq_true, if_false, Bool.and_eq_true] at h
    obtain ⟨⟨hseparator, hplain⟩, hmore⟩ := h
    cases kind with
    | separator => cases hseparator
    | unknown =>
      rw [List.cons_append, readItems_unknown, readItems_unknown]
      exact ih hmore _
    | option s name value =>
      simp only [List.cons_append, readItems_option, readOption_eq, hwants,
        spelled_alone hwants (plainNext _)]
      cases spelled l s name value none with
      | error e => rfl
      | ok opts =>
        dsimp only [Except.bind]
        cases applyAll l r.1 opts with
        | error e => rfl
        | ok a => exact ih hmore _
    | plain =>
      have hwords : words = true := by simpa using hplain
      have hfront : ∀ x ∈ (more ++ behind).head?, x.2 ≠ .separator := by
        cases more with
        | nil => exact hbehind hwords
        | cons x more => exact fun y hy => whole_head hmore y hy
      rw [List.cons_append, readItems_plain r arg hfront, readItems_plain r arg (whole_head hmore)]
      split
      · exact ih hmore _
      · exact ih hmore _

/-- One part after the other gives its options. -/
theorem Reads.append {words : Bool} {items behind : List (String × Kind)}
    {opts more : List (Setting × Option String)} {rest rest' rest'' : Option String × List String}
    (hitems : whole l words items = true)
    (hbehind : words = true → ∀ x ∈ behind.head?, x.2 ≠ .separator)
    (h : Reads l takesPath rest items opts rest') (h' : Reads l takesPath rest' behind more rest'') :
    Reads l takesPath rest (items ++ behind) (opts ++ more) rest'' where
  settings := by
    rw [List.map_append, h.settings, h'.settings]
    exact (List.flatMap_append ..).symm
  read a := by
    rw [readItems_append hitems hbehind, h.read, applyAll_append]
    cases applyAll l a opts with
    | error e => rfl
    | ok a => exact h'.read a

end Reading

end Command

end SiteAudit
