import SiteAudit.Proofs.Stylesheet.Joining

/-!
# The scan of a stylesheet with two flags

`Scan.mode` leaves no room for a string and a comment at once, and its depth
cannot be negative. Here is the scan in which nothing but the order of its guards
prevents either: a depth that is any integer, a flag for strings, a flag for
comments and the quote remembered last (`Flags`). `Flags.round` tries the guards
at one character; a `Cursor` stands in the text between two characters, and
`Cursor.step` goes on by one round or to the next line. The end of the text is
checked by three tests that do not know of each other.

* `round_sound`, `reached_sound`: where the scan can stand, at most one flag is set
  and the depth is not negative.
* `step_line`, `run_eq_remaining`: both scans find the same closing braces and end
  in the same state.
* `guardedIssues_eq`: so both give the same report.
-/
namespace SiteAudit.Stylesheet

open Text

/-! ## Rounds -/

/-- What the scan keeps between two characters. -/
structure Flags where
  depth : Int := 0
  inString : Bool := false
  /-- The quote that opened the last string, if there was one. -/
  quote : Option Char := none
  inComment : Bool := false
  deriving DecidableEq, Repr

/-- What a round does: it reads one character or two, and may find a closing brace
with nothing open. -/
structure Round where
  flags : Flags
  two : Bool := false
  stray : Bool := false

/-- The round at `c`, which stands between `before` and `next`. The first guard that
holds decides. -/
def Flags.round (f : Flags) (before : Option Char) (c : Char) (next : Option Char) : Round :=
  if !f.inString && !f.inComment && c == '/' && next == some '*' then
    { flags := { f with inComment := true }, two := true }
  else if f.inComment && c == '*' && next == some '/' then
    { flags := { f with inComment := false }, two := true }
  else if f.inComment then { flags := f }
  else if !f.inString && isQuote c then
    { flags := { f with inString := true, quote := some c } }
  else if f.inString && some c == f.quote && before != some '\\' then
    { flags := { f with inString := false } }
  else if f.inString then { flags := f }
  else if c == '{' then { flags := { f with depth := f.depth + 1 } }
  else if c == '}' then
    if f.depth - 1 < 0 then { flags := { f with depth := 0 }, stray := true }
    else { flags := { f with depth := f.depth - 1 } }
  else { flags := f }

/-- A place between two characters of a text: the number of the line, what is read
of it, the last character first, what is left of it, and the lines below. -/
structure Cursor where
  line : Nat
  before : List Char
  rest : List Char
  below : List (List Char)
  flags : Flags

/-- The front of a text. -/
def Cursor.start (text : List Char) : Cursor :=
  { line := 1, before := [], rest := (splitOn '\n' text).headD [],
    below := (splitOn '\n' text).tail, flags := {} }

/-- One round, or the way to the next line; nothing at the end of the text. -/
def Cursor.step (c : Cursor) : Option (List Place × Cursor) :=
  match c.rest with
  | [] =>
    match c.below with
    | [] => none
    | text :: more =>
      some ([], { c with line := c.line + 1, before := [], rest := text, below := more })
  | x :: r =>
    let round := c.flags.round c.before.head? x r.head?
    let next := if round.two then
        { c with before := r.take 1 ++ x :: c.before, rest := r.drop 1, flags := round.flags }
      else { c with before := x :: c.before, rest := r, flags := round.flags }
    some (if round.stray then [⟨c.line, c.before.length⟩] else [], next)

/-- How much is left to read, line ends included. -/
def Cursor.size (c : Cursor) : Nat :=
  c.rest.length + c.below.foldr (fun text n => text.length + 1 + n) 0

theorem step_size {c next : Cursor} {found : List Place} (h : c.step = some (found, next)) :
    next.size < c.size := by
  obtain ⟨line, before, rest, below, flags⟩ := c
  cases rest with
  | nil =>
    cases below with
    | nil => cases h
    | cons text more =>
      cases h
      simp [Cursor.size]
  | cons x r =>
    simp only [Cursor.step, Option.some.injEq, Prod.mk.injEq] at h
    obtain ⟨-, rfl⟩ := h
    split
    · simp only [Cursor.size, List.length_drop, List.length_cons]
      omega
    · simp [Cursor.size]

/-- The closing braces that are found from a cursor on, and the flags at the end. -/
def Cursor.run (c : Cursor) : List Place × Flags :=
  match _hstep : c.step with
  | none => ([], c.flags)
  | some (found, next) => (found ++ next.run.1, next.run.2)
termination_by c.size
decreasing_by all_goals exact step_size _hstep

/-! ## Where the scan can stand -/

/-- Not in a string and in a comment at once, no depth below zero, and a string has
a quote that it waits for. -/
structure Flags.Sound (f : Flags) : Prop where
  apart : ¬(f.inString = true ∧ f.inComment = true)
  depth : 0 ≤ f.depth
  quoted : f.inString = true → ∃ q, f.quote = some q

/-- The flags as they can be, by what the scan is in. -/
theorem Flags.Sound.cases {f : Flags} (h : f.Sound) :
    (∃ q, f = ⟨f.depth, false, q, false⟩) ∨ (∃ q, f = ⟨f.depth, false, q, true⟩) ∨
      ∃ q, f = ⟨f.depth, true, some q, false⟩ := by
  obtain ⟨hapart, -, hquoted⟩ := h
  obtain ⟨depth, inString, quote, inComment⟩ := f
  cases inString with
  | false =>
    cases inComment with
    | false => exact Or.inl ⟨quote, rfl⟩
    | true => exact Or.inr (Or.inl ⟨quote, rfl⟩)
  | true =>
    obtain ⟨q, rfl⟩ := hquoted rfl
    cases inComment with
    | false => exact Or.inr (Or.inr ⟨q, rfl⟩)
    | true => exact absurd ⟨rfl, rfl⟩ hapart

/-! What is left of the guards in each of the three. -/

theorem round_code (depth : Int) (q before next : Option Char) (c : Char) :
    Flags.round ⟨depth, false, q, false⟩ before c next =
      if c = '/' ∧ next = some '*' then { flags := ⟨depth, false, q, true⟩, two := true }
      else if isQuote c then { flags := ⟨depth, true, some c, false⟩ }
      else if c = '{' then { flags := ⟨depth + 1, false, q, false⟩ }
      else if c = '}' then
        if depth - 1 < 0 then { flags := ⟨0, false, q, false⟩, stray := true }
        else { flags := ⟨depth - 1, false, q, false⟩ }
      else { flags := ⟨depth, false, q, false⟩ } := by
  simp [Flags.round]

theorem round_comment (depth : Int) (q before next : Option Char) (c : Char) :
    Flags.round ⟨depth, false, q, true⟩ before c next =
      if c = '*' ∧ next = some '/' then { flags := ⟨depth, false, q, false⟩, two := true }
      else { flags := ⟨depth, false, q, true⟩ } := by
  simp [Flags.round]

theorem round_string (depth : Int) (q : Char) (before next : Option Char) (c : Char) :
    Flags.round ⟨depth, true, some q, false⟩ before c next =
      if c = q ∧ before ≠ some '\\' then { flags := ⟨depth, false, some q, false⟩ }
      else { flags := ⟨depth, true, some q, false⟩ } := by
  simp [Flags.round]

theorem sound_code {depth : Int} (q : Option Char) (h : 0 ≤ depth) :
    Flags.Sound ⟨depth, false, q, false⟩ := ⟨by simp, h, by simp⟩

theorem sound_comment {depth : Int} (q : Option Char) (h : 0 ≤ depth) :
    Flags.Sound ⟨depth, false, q, true⟩ := ⟨by simp, h, by simp⟩

theorem sound_string {depth : Int} (q : Char) (h : 0 ≤ depth) :
    Flags.Sound ⟨depth, true, some q, false⟩ := ⟨by simp, h, fun _ => ⟨q, rfl⟩⟩

/-- **One round** keeps the flags sound. -/
theorem round_sound {f : Flags} (h : f.Sound) (before next : Option Char) (c : Char) :
    (f.round before c next).flags.Sound := by
  have hdepth := h.depth
  rcases h.cases with ⟨q, hf⟩ | ⟨q, hf⟩ | ⟨q, hf⟩
  · rw [hf, round_code]
    split
    · exact sound_comment q hdepth
    split
    · exact sound_string c hdepth
    split
    · exact sound_code q (Int.le_add_one hdepth)
    split
    · split
      · exact sound_code q (Int.le_refl 0)
      · exact sound_code q (by omega)
    · exact sound_code q hdepth
  · rw [hf, round_comment]
    split
    · exact sound_code q hdepth
    · exact sound_comment q hdepth
  · rw [hf, round_string]
    split
    · exact sound_code (some q) hdepth
    · exact sound_string q hdepth

theorem step_sound {c next : Cursor} {found : List Place} (h : c.flags.Sound)
    (hs : c.step = some (found, next)) : next.flags.Sound := by
  obtain ⟨line, before, rest, below, flags⟩ := c
  cases rest with
  | nil =>
    cases below with
    | nil => cases hs
    | cons text more =>
      cases hs
      exact h
  | cons x r =>
    simp only [Cursor.step, Option.some.injEq, Prod.mk.injEq] at hs
    obtain ⟨-, rfl⟩ := hs
    split <;> exact round_sound h ..

/-- The places between characters to which the scan of a text comes. -/
inductive Reached (text : List Char) : Cursor → Prop where
  | start : Reached text (.start text)
  | step {c next : Cursor} {found : List Place} :
      Reached text c → c.step = some (found, next) → Reached text next

/-- **Everywhere.** No flag excludes the other, and yet they are never both set. -/
theorem reached_sound {text : List Char} {c : Cursor} (h : Reached text c) : c.flags.Sound := by
  induction h with
  | start => exact sound_code none (Int.le_refl 0)
  | step _ hs ih => exact step_sound ih hs

/-! ## The two scans side by side -/

/-- The state of the scan with a mode, behind the character `before` of a line. -/
def Flags.scan (f : Flags) (before : Option Char) : Scan where
  depth := f.depth.toNat
  mode := match f.inComment, f.inString, f.quote with
    | true, _, _ => .comment
    | false, true, some q => .string q (before == some '\\')
    | false, _, _ => .code

/-- What the scan with a mode makes of the rest of the line. -/
def Cursor.onLine (c : Cursor) : List Place × Scan :=
  scanLine c.line c.before.length (c.flags.scan c.before.head?) c.rest

/-- What it makes of the rest of the text. -/
def Cursor.remaining (c : Cursor) : List Place × Scan :=
  let later := scanLines (c.line + 1) c.onLine.2.nextLine c.below
  (c.onLine.1 ++ later.1, later.2)

theorem nextLine_scan_flags (f : Flags) (before : Option Char) :
    (f.scan before).nextLine = f.scan none := by
  obtain ⟨depth, inString, quote, inComment⟩ := f
  cases inComment <;> cases inString <;> cases quote <;> rfl

/-- A second character that is not there, told from the rest of the line. -/
theorem no_mark {x first second : Char} {r : List Char}
    (h : ¬(x = first ∧ r.head? = some second)) : ∀ t, x = first → r = second :: t → False := by
  rintro t rfl rfl
  exact h ⟨rfl, rfl⟩

/-- A step within a line that the scan with a mode makes too. -/
structure SameLine (c : Cursor) (found : List Place) (next : Cursor) : Prop where
  line : next.line = c.line
  below : next.below = c.below
  scan : c.onLine = (found ++ next.onLine.1, next.onLine.2)

section

variable {line : Nat} {before r : List Char} {x : Char} {below : List (List Char)}
  {depth : Int} {found : List Place} {next : Cursor}

theorem step_comment {q : Option Char}
    (hs : Cursor.step ⟨line, before, x :: r, below, ⟨depth, false, q, true⟩⟩ = some (found, next)) :
    SameLine ⟨line, before, x :: r, below, ⟨depth, false, q, true⟩⟩ found next := by
  simp only [Cursor.step, round_comment, Option.some.injEq, Prod.mk.injEq] at hs
  obtain ⟨rfl, rfl⟩ := hs
  by_cases hend : x = '*' ∧ r.head? = some '/'
  · obtain ⟨rfl, hnext⟩ := hend
    obtain ⟨t, rfl⟩ := List.head?_eq_some_iff.mp hnext
    refine ⟨rfl, rfl, ?_⟩
    simp [Cursor.onLine, scanLine, Flags.scan]
  · have hline := scanLine.eq_4 line before.length depth.toNat x r (no_mark hend)
    rw [if_neg hend]
    refine ⟨rfl, rfl, ?_⟩
    simp [Cursor.onLine, Flags.scan, hline]

theorem step_string {q : Char}
    (hs : Cursor.step ⟨line, before, x :: r, below, ⟨depth, true, some q, false⟩⟩ =
      some (found, next)) :
    SameLine ⟨line, before, x :: r, below, ⟨depth, true, some q, false⟩⟩ found next := by
  simp only [Cursor.step, round_string, Option.some.injEq, Prod.mk.injEq] at hs
  obtain ⟨rfl, rfl⟩ := hs
  by_cases hclose : x = q ∧ before.head? ≠ some '\\'
  · rw [if_pos hclose]
    refine ⟨rfl, rfl, ?_⟩
    simp [Cursor.onLine, hclose, scanLine, Flags.scan]
  · rw [if_neg hclose]
    refine ⟨rfl, rfl, ?_⟩
    simp [Cursor.onLine, hclose, scanLine, Flags.scan]

/-- In code the guards are tried on: a quote, an opening brace, a closing one. -/
theorem step_code {q : Option Char} (hdepth : 0 ≤ depth)
    (hs : Cursor.step ⟨line, before, x :: r, below, ⟨depth, false, q, false⟩⟩ =
      some (found, next)) :
    SameLine ⟨line, before, x :: r, below, ⟨depth, false, q, false⟩⟩ found next := by
  simp only [Cursor.step, round_code, Option.some.injEq, Prod.mk.injEq] at hs
  obtain ⟨rfl, rfl⟩ := hs
  by_cases hopen : x = '/' ∧ r.head? = some '*'
  · obtain ⟨rfl, hnext⟩ := hopen
    obtain ⟨t, rfl⟩ := List.head?_eq_some_iff.mp hnext
    refine ⟨rfl, rfl, ?_⟩
    simp [Cursor.onLine, scanLine, Flags.scan]
  have hline := scanLine.eq_6 line before.length depth.toNat x r (no_mark hopen)
  rw [if_neg hopen]
  by_cases hquote : isQuote x = true
  · have hplain : (x == '\\') = false := by
      rcases (by simpa [isQuote] using hquote : x = '"' ∨ x = '\'') with rfl | rfl <;> rfl
    rw [if_pos hquote] at hline ⊢
    refine ⟨rfl, rfl, ?_⟩
    simp [Cursor.onLine, hplain, Flags.scan, hline]
  rw [if_neg hquote] at hline ⊢
  by_cases ho : x = '{'
  · have hnat : (depth + 1).toNat = depth.toNat + 1 := by omega
    rw [if_pos ho] at hline ⊢
    refine ⟨rfl, rfl, ?_⟩
    simp [Cursor.onLine, Flags.scan, hline, hnat]
  rw [if_neg ho] at hline ⊢
  by_cases hc : x = '}'
  · rw [if_pos hc] at hline ⊢
    by_cases hneg : depth - 1 < 0
    · have hnat : depth.toNat = 0 := by omega
      rw [hnat, if_pos rfl] at hline
      rw [if_pos hneg]
      refine ⟨rfl, rfl, ?_⟩
      simp [Cursor.onLine, Flags.scan, hline, hnat]
    · have hnat : (depth - 1).toNat = depth.toNat - 1 := by omega
      have hpos : depth.toNat ≠ 0 := by omega
      rw [if_neg hneg]
      refine ⟨rfl, rfl, ?_⟩
      simp [Cursor.onLine, Flags.scan, hline, hnat, hpos]
  · rw [if_neg hc] at hline ⊢
    refine ⟨rfl, rfl, ?_⟩
    simp [Cursor.onLine, Flags.scan, hline]

/-- **One round** does what the scan with a mode does at the same place. -/
theorem step_line {f : Flags} (h : f.Sound)
    (hs : Cursor.step ⟨line, before, x :: r, below, f⟩ = some (found, next)) :
    SameLine ⟨line, before, x :: r, below, f⟩ found next := by
  rcases h.cases with ⟨q, hf⟩ | ⟨q, hf⟩ | ⟨q, hf⟩
  · rw [hf] at hs ⊢
    exact step_code h.depth hs
  · rw [hf] at hs ⊢
    exact step_comment hs
  · rw [hf] at hs ⊢
    exact step_string hs

end

theorem step_remaining {c next : Cursor} {found : List Place} (h : c.flags.Sound)
    (hs : c.step = some (found, next)) :
    c.remaining = (found ++ next.remaining.1, next.remaining.2) := by
  obtain ⟨line, before, rest, below, flags⟩ := c
  cases rest with
  | nil =>
    cases below with
    | nil => cases hs
    | cons text more =>
      cases hs
      simp [Cursor.remaining, Cursor.onLine, scanLine, scanLines, nextLine_scan_flags]
  | cons x r =>
    obtain ⟨hline, hbelow, hscan⟩ := step_line h hs
    simp only [Cursor.remaining, hscan, hline, hbelow, List.append_assoc]

theorem remaining_end {c : Cursor} (hs : c.step = none) :
    c.remaining = ([], c.flags.scan none) := by
  obtain ⟨line, before, rest, below, flags⟩ := c
  cases rest with
  | nil =>
    cases below with
    | nil => simp [Cursor.remaining, Cursor.onLine, scanLine, scanLines, nextLine_scan_flags]
    | cons text more => cases hs
  | cons x r => cases hs

/-- **Side by side.** From every place that is reached, both scans find the same
closing braces and end in the same state; and the end is reached too. -/
theorem run_eq_remaining {text : List Char} (c : Cursor) (h : Reached text c) :
    c.run.1 = c.remaining.1 ∧ c.run.2.scan none = c.remaining.2 ∧ c.run.2.Sound := by
  fun_induction Cursor.run c with
  | case1 c hs =>
    rw [remaining_end hs]
    exact ⟨rfl, rfl, reached_sound h⟩
  | case2 c found next hs ih =>
    obtain ⟨hfound, hlast, hsound⟩ := ih (h.step hs)
    rw [step_remaining (reached_sound h) hs, hfound, hlast]
    exact ⟨rfl, rfl, hsound⟩

theorem remaining_start (text : List Char) :
    (Cursor.start text).remaining = (strays text, lastState text) := by
  obtain ⟨first, more, hlines⟩ := List.exists_cons_of_ne_nil (splitOn_ne_nil '\n' text)
  simp only [Cursor.start, strays, lastState, hlines]
  rfl

/-! ## The report -/

/-- The report of the scan with two flags: the braces that it found, and then the
three tests at the end, each for itself. -/
def guardedIssues (file : SourceFile) : List Issue :=
  let last := 1 + file.content.toList.count '\n'
  let (found, f) := (Cursor.start file.content.toList).run
  found.map (strayIssue file) ++
    (if 0 < f.depth then
      [issueAt file Rule.braceUnclosed
        ("Unclosed brace: " ++ toString f.depth ++ " opening brace(s) without matching close") last]
     else []) ++
    (if f.inComment then [issueAt file Rule.commentUnclosed "Unclosed comment" last] else []) ++
    (if f.inString then [issueAt file Rule.stringUnclosed "Unclosed string" last] else [])

/-- With sound flags, the three tests give what the state with a mode gives. -/
theorem endIssues_scan_flags (file : SourceFile) (last : Nat) {f : Flags} (h : f.Sound) :
    endIssues file last (f.scan none) =
      (if 0 < f.depth then
        [issueAt file Rule.braceUnclosed
          ("Unclosed brace: " ++ toString f.depth ++ " opening brace(s) without matching close")
          last]
       else []) ++
      (if f.inComment then [issueAt file Rule.commentUnclosed "Unclosed comment" last] else []) ++
      (if f.inString then [issueAt file Rule.stringUnclosed "Unclosed string" last] else []) := by
  have hdepth : toString f.depth.toNat = toString f.depth := by
    obtain ⟨n, hn⟩ := Int.eq_ofNat_of_zero_le h.depth
    rw [hn]
    rfl
  rcases h.cases with ⟨q, hf⟩ | ⟨q, hf⟩ | ⟨q, hf⟩ <;>
    · rw [hf]
      by_cases hpos : 0 < f.depth <;> simp [endIssues, Flags.scan, hpos, hdepth]

theorem guardedIssues_eq (file : SourceFile) : guardedIssues file = issues file := by
  have hstart : Reached file.content.toList (.start file.content.toList) := .start
  obtain ⟨hfound, hlast, hsound⟩ := run_eq_remaining _ hstart
  rw [remaining_start] at hfound hlast
  dsimp only at hfound hlast
  rw [issues_eq_strays, ← hfound, ← hlast, endIssues_scan_flags file _ hsound]
  simp only [guardedIssues, List.append_assoc]

end SiteAudit.Stylesheet
