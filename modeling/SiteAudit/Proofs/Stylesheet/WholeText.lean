import SiteAudit.Proofs.Text.Lines
import SiteAudit.Stylesheet.Balance

/-!
# The scan of a stylesheet as one pass over its text

`scanLines` cuts a stylesheet at its line feeds and starts a new scan on every
line; only the open braces and the mode go from one line to the next. `pass`
reads the uncut text once. It knows all that stands before a character, so it
looks one character back where the lines keep a flag, and a line feed is a
character like any other. It finds offsets, which `lineStart` turns into lines
and columns.

* `resume` is the scan of lines taken up in the middle of a line: the two scans
  meet there.
* `resumeAt_eq_pass`: from the same place both find the same closing braces and
  end in the same state.
* `line_scan_eq_pass`: the issues of a stylesheet are those of the pass.
-/
namespace SiteAudit.Stylesheet

open Text

/-! ## One pass -/

/-- What a character of the text belongs to. -/
inductive Region where
  | code
  | comment
  | string (quote : Char)
  deriving DecidableEq, Repr

/-- The state of the pass between two characters. -/
structure Pass where
  depth : Int := 0
  region : Region := .code
  deriving DecidableEq, Repr

/-- Reads the text behind `before`, which holds what is already read, its last
character first. Gives the offsets of the closing braces with nothing open, and
the state at the end of the text. -/
def pass (before : List Char) : Pass → List Char → List Nat × Pass
  | p, [] => ([], p)
  | ⟨depth, .code⟩, '/' :: '*' :: r => pass ('*' :: '/' :: before) ⟨depth, .comment⟩ r
  | ⟨depth, .comment⟩, '*' :: '/' :: r => pass ('/' :: '*' :: before) ⟨depth, .code⟩ r
  | ⟨depth, .comment⟩, c :: r => pass (c :: before) ⟨depth, .comment⟩ r
  | ⟨depth, .string q⟩, c :: r =>
    if c = q ∧ before.head? ≠ some '\\' then pass (c :: before) ⟨depth, .code⟩ r
    else pass (c :: before) ⟨depth, .string q⟩ r
  | ⟨depth, .code⟩, c :: r =>
    if c = '"' ∨ c = '\'' then pass (c :: before) ⟨depth, .string c⟩ r
    else if c = '{' then pass (c :: before) ⟨depth + 1, .code⟩ r
    else if c = '}' then
      if depth - 1 < 0 then
        let (found, p) := pass (c :: before) ⟨0, .code⟩ r
        (before.length :: found, p)
      else pass (c :: before) ⟨depth - 1, .code⟩ r
    else pass (c :: before) ⟨depth, .code⟩ r

/-- The offset at which the line of offset `k` starts: what is left of the text
before `k` without the characters behind its last line feed. -/
def lineStart (text : List Char) (k : Nat) : Nat :=
  ((text.take k).reverse.dropWhile (· != '\n')).length

/-- The line and column of offset `k`. -/
def placeAt (text : List Char) (k : Nat) : Place :=
  { line := 1 + (text.take k).count '\n', column := k - lineStart text k }

theorem placeAt_before (before rest : List Char) :
    placeAt (before.reverse ++ rest) before.length =
      ⟨1 + before.count '\n', (before.takeWhile (· != '\n')).length⟩ := by
  have htake : (before.reverse ++ rest).take before.length = before.reverse := by
    rw [← List.length_reverse, List.take_left]
  have hsplit : (before.takeWhile (· != '\n')).length + (before.dropWhile (· != '\n')).length =
      before.length := by
    rw [← List.length_append, List.takeWhile_append_dropWhile]
  simp only [placeAt, lineStart, htake, List.reverse_reverse, List.count_reverse]
  congr 1
  omega

/-! ## Lines -/

theorem scanLine_comment {line column depth : Nat} {c : Char} {r : List Char}
    (h : ∀ t, c = '*' → r = '/' :: t → False) :
    scanLine line column ⟨depth, .comment⟩ (c :: r) =
      scanLine line (column + 1) ⟨depth, .comment⟩ r :=
  scanLine.eq_4 line column depth c r h

theorem scanLine_code {line column depth : Nat} {c : Char} {r : List Char}
    (h : ∀ t, c = '/' → r = '*' :: t → False) (hq : isQuote c = false) (ho : c ≠ '{')
    (hc : c ≠ '}') :
    scanLine line column ⟨depth, .code⟩ (c :: r) =
      scanLine line (column + 1) ⟨depth, .code⟩ r := by
  rw [scanLine.eq_6 line column depth c r h]
  simp [hq, ho, hc]

/-- What cannot follow on the text cannot follow on a line of it. -/
theorem prefix_head_false {c d e : Char} {r piece : List Char} (hpre : piece <+: r)
    (h : ∀ t, c = d → r = e :: t → False) : ∀ t, c = d → piece = e :: t → False := by
  rintro t hc rfl
  obtain ⟨rest, rfl⟩ := hpre
  exact h (t ++ rest) hc rfl

/-- The scan of lines, taken up at a column of a line with `rest` still to read. -/
def resume (line column : Nat) (s : Scan) (rest : List Char) : List Place × Scan :=
  match splitOn '\n' rest with
  | [] => ([], s)
  | piece :: more =>
    let here := scanLine line column s piece
    let later := scanLines (line + 1) here.2.nextLine more
    (here.1 ++ later.1, later.2)

theorem scanLines_eq_resume (line : Nat) (s : Scan) (text : List Char) :
    scanLines line s (splitOn '\n' text) = resume line 0 s text := by
  unfold resume
  cases splitOn '\n' text <;> rfl

theorem resume_nil (line column : Nat) (s : Scan) :
    resume line column s [] = ([], s.nextLine) := by
  simp [resume, splitOn, scanLine, scanLines]

theorem resume_newline (line column : Nat) (s : Scan) (r : List Char) :
    resume line column s ('\n' :: r) = resume (line + 1) 0 s.nextLine r := by
  rw [← scanLines_eq_resume]
  simp [resume, splitOn, scanLine]

/-- Text of the same line. What follows is on the line as far as it goes, so a
scan of the line that reads `lead` in front of every beginning of the rest reads
it here too. -/
theorem resume_read {line column : Nat} {s t : Scan} {lead r : List Char} {strays : List Place}
    (hlead : ∀ c ∈ lead, c ≠ '\n')
    (h : ∀ piece, piece <+: r → scanLine line column s (lead ++ piece) =
      (strays ++ (scanLine line (column + lead.length) t piece).1,
        (scanLine line (column + lead.length) t piece).2)) :
    resume line column s (lead ++ r) =
      (strays ++ (resume line (column + lead.length) t r).1,
        (resume line (column + lead.length) t r).2) := by
  obtain ⟨piece, more, hr⟩ := List.exists_cons_of_ne_nil (splitOn_ne_nil '\n' r)
  have hsplit := splitOn_lead (fun hmem => hlead _ hmem rfl) hr
  simp only [resume, hsplit, hr, h piece (splitOn_isPrefix hr), List.append_assoc]

/-! ## The two scans side by side -/

/-- The state of the line scan behind the text `before`. -/
def Pass.scan (before : List Char) (p : Pass) : Scan where
  depth := p.depth.toNat
  mode := match p.region with
    | .code => .code
    | .comment => .comment
    | .string q => .string q (before.head? == some '\\')

/-- The states that a pass can be in. -/
structure Pass.Sound (p : Pass) : Prop where
  depth : 0 ≤ p.depth
  quote : ∀ q, p.region = .string q → q = '"' ∨ q = '\''

/-- The scan of lines, taken up behind the text `before`. -/
def resumeAt (before : List Char) (p : Pass) (rest : List Char) : List Place × Scan :=
  resume (1 + before.count '\n') (before.takeWhile (· != '\n')).length (p.scan before) rest

/-- A backslash in front of a line feed protects nothing: the next line starts
as if the character before it were the line feed. -/
theorem nextLine_scan (before : List Char) (p : Pass) :
    (p.scan before).nextLine = p.scan ('\n' :: before) ∧ (p.scan before).nextLine = p.scan [] := by
  obtain ⟨depth, region⟩ := p
  cases region <;> exact ⟨rfl, rfl⟩

theorem resumeAt_nil (before : List Char) (p : Pass) :
    resumeAt before p [] = ([], p.scan []) := by
  rw [resumeAt, resume_nil, (nextLine_scan before p).2]

theorem resumeAt_newline (before : List Char) (p : Pass) (r : List Char) :
    resumeAt before p ('\n' :: r) = resumeAt ('\n' :: before) p r := by
  rw [resumeAt, resume_newline, (nextLine_scan before p).1]
  simp [resumeAt, Nat.add_assoc]

/-- A step within a line: what the line scan does with `lead` in front of any
beginning of the rest. -/
theorem resumeAt_read {before r : List Char} {p : Pass} (lead : List Char) (t : Pass)
    (strays : Nat → Nat → List Place) (hlead : ∀ c ∈ lead, c ≠ '\n')
    (h : ∀ line column piece, piece <+: r → scanLine line column (p.scan before) (lead ++ piece) =
      (strays line column ++
          (scanLine line (column + lead.length) (t.scan (lead.reverse ++ before)) piece).1,
        (scanLine line (column + lead.length) (t.scan (lead.reverse ++ before)) piece).2)) :
    resumeAt before p (lead ++ r) =
      (strays (1 + before.count '\n') (before.takeWhile (· != '\n')).length ++
          (resumeAt (lead.reverse ++ before) t r).1,
        (resumeAt (lead.reverse ++ before) t r).2) := by
  have hcount : lead.count '\n' = 0 := List.count_eq_zero.mpr fun hm => hlead _ hm rfl
  have htake : (lead.reverse ++ before).takeWhile (· != '\n') =
      lead.reverse ++ before.takeWhile (· != '\n') :=
    List.takeWhile_append_of_pos fun c hc => by simpa using hlead c (List.mem_reverse.mp hc)
  rw [resumeAt, resume_read hlead (h _ _)]
  simp [resumeAt, htake, hcount, Nat.add_comm]

theorem resumeAt_move {before r : List Char} {p : Pass} (lead : List Char) (t : Pass)
    (hlead : ∀ c ∈ lead, c ≠ '\n')
    (h : ∀ line column piece, piece <+: r → scanLine line column (p.scan before) (lead ++ piece) =
      scanLine line (column + lead.length) (t.scan (lead.reverse ++ before)) piece) :
    resumeAt before p (lead ++ r) = resumeAt (lead.reverse ++ before) t r :=
  resumeAt_read lead t (fun _ _ => []) hlead h

theorem resumeAt_skip {before r : List Char} {p : Pass} {c : Char}
    (h : c ≠ '\n' → ∀ line column piece, piece <+: r →
      scanLine line column (p.scan before) (c :: piece) =
        scanLine line (column + 1) (p.scan (c :: before)) piece) :
    resumeAt before p (c :: r) = resumeAt (c :: before) p r := by
  by_cases hc : c = '\n'
  · subst hc
    exact resumeAt_newline before p r
  · exact resumeAt_move [c] p (by simpa using hc) (h hc)

/-- **One pass.** From the same place, the scan of lines and the pass over the
uncut text find the same closing braces and end in the same state. The
induction follows the pass; a line feed can only be the character of a step that
changes nothing. -/
theorem resumeAt_eq_pass (before : List Char) (p : Pass) (rest : List Char) (hp : p.Sound) :
    resumeAt before p rest =
      ((pass before p rest).1.map (placeAt (before.reverse ++ rest)),
        (pass before p rest).2.scan []) := by
  fun_induction pass before p rest with
  | case1 before p => exact resumeAt_nil before p
  | case2 before depth r ih =>
    refine (resumeAt_move ['/', '*'] ⟨depth, .comment⟩ (by simp) ?_).trans ?_
    · intro line column piece _
      simp [scanLine, Pass.scan]
    · simpa using ih ⟨hp.depth, by simp⟩
  | case3 before depth r ih =>
    refine (resumeAt_move ['*', '/'] ⟨depth, .code⟩ (by simp) ?_).trans ?_
    · intro line column piece _
      simp [scanLine, Pass.scan]
    · simpa using ih ⟨hp.depth, by simp⟩
  | case4 before depth c r hend ih =>
    refine (resumeAt_skip fun _ line column piece hpre => ?_).trans ?_
    · exact scanLine_comment (prefix_head_false hpre hend)
    · simpa using ih hp
  | case5 before depth q c r hclose ih =>
    obtain ⟨rfl, hlast⟩ := hclose
    refine (resumeAt_move [c] ⟨depth, .code⟩ ?_ ?_).trans ?_
    · rcases hp.quote c rfl with rfl | rfl <;> simp
    · intro line column piece _
      simp [scanLine, Pass.scan, hlast]
    · simpa using ih ⟨hp.depth, by simp⟩
  | case6 before depth q c r hclose ih =>
    refine (resumeAt_skip fun _ line column piece _ => ?_).trans ?_
    · simp [scanLine, Pass.scan, hclose]
    · simpa using ih hp
  | case7 before depth c r _ hquote ih =>
    refine (resumeAt_move [c] ⟨depth, .string c⟩ ?_ ?_).trans ?_
    · rcases hquote with rfl | rfl <;> simp
    · intro line column piece _
      rcases hquote with rfl | rfl <;> simp [scanLine, Pass.scan, isQuote]
    · simpa using ih ⟨hp.depth, by simpa using hquote⟩
  | case8 before depth r _ _ ih =>
    have hdepth : 0 ≤ depth := hp.depth
    have hnat : (depth + 1).toNat = depth.toNat + 1 := by omega
    refine (resumeAt_move ['{'] ⟨depth + 1, .code⟩ (by simp) ?_).trans ?_
    · intro line column piece _
      simp [scanLine, Pass.scan, isQuote, hnat]
    · simpa using ih ⟨Int.le_add_one hdepth, by simp⟩
  | case9 before depth r hneg found p _ _ _ hrun ih =>
    have hdepth : 0 ≤ depth := hp.depth
    obtain rfl : depth = 0 := by omega
    refine (resumeAt_read ['}'] ⟨0, .code⟩ (fun line column => [⟨line, column⟩]) (by simp)
      ?_).trans ?_
    · intro line column piece _
      simp [scanLine, Pass.scan, isQuote]
    · have hrest := ih ⟨Int.le_refl 0, by simp⟩
      simp only [hrun] at hrest
      simp [hrest, placeAt_before]
  | case10 before depth r hneg _ _ _ ih =>
    have hpos : depth.toNat ≠ 0 := by omega
    have hnat : (depth - 1).toNat = depth.toNat - 1 := by omega
    refine (resumeAt_move ['}'] ⟨depth - 1, .code⟩ (by simp) ?_).trans ?_
    · intro line column piece _
      simp [scanLine, Pass.scan, isQuote, hnat, hpos]
    · simpa using ih ⟨Int.not_lt.mp hneg, by simp⟩
  | case11 before depth c r hopen hquote ho hc ih =>
    refine (resumeAt_skip fun _ line column piece hpre => ?_).trans ?_
    · refine scanLine_code (prefix_head_false hpre hopen) ?_ ho hc
      simpa [isQuote] using hquote
    · simpa using ih hp

/-! ## The issues -/

/-- Where lines start: at the front of the text or behind a line feed, with no
line feed from there to `k`. -/
theorem lineStart_spec (text : List Char) (k : Nat) :
    lineStart text k ≤ k ∧
      (lineStart text k = 0 ∨ text[lineStart text k - 1]? = some '\n') ∧
      '\n' ∉ (text.take k).drop (lineStart text k) := by
  -- the text before `k`, from its end: what stands on its line, then the lines above
  have hsplit := List.takeWhile_append_dropWhile (p := (· != '\n')) (l := (text.take k).reverse)
  have hline : '\n' ∉ (text.take k).reverse.takeWhile (· != '\n') := by
    intro hmem
    simpa using List.all_eq_true.mp List.all_takeWhile _ hmem
  have hend := List.head?_dropWhile_not (· != '\n') (text.take k).reverse
  unfold lineStart
  generalize (text.take k).reverse.takeWhile (· != '\n') = line at hsplit hline
  generalize (text.take k).reverse.dropWhile (· != '\n') = above at hsplit hend ⊢
  have htake : text.take k = above.reverse ++ line.reverse := by
    rw [← List.reverse_append, hsplit, List.reverse_reverse]
  have hle : above.length ≤ k := by
    have := List.length_take_le k text
    rw [htake, List.length_append, List.length_reverse] at this
    omega
  refine ⟨hle, ?_, ?_⟩
  · cases above with
    | nil => exact Or.inl rfl
    | cons c front =>
      right
      obtain rfl : c = '\n' := by simpa using hend
      have hk : front.length < k := hle
      have hget := congrArg (·[front.length]?) htake
      simpa [List.getElem?_take, hk] using hget
  · have hdrop : (above.reverse ++ line.reverse).drop above.length = line.reverse := by
      rw [← List.length_reverse, List.drop_left]
    rw [htake, hdrop, List.mem_reverse]
    exact hline

theorem endIssues_scan (file : SourceFile) (last : Nat) (p : Pass) :
    endIssues file last (p.scan []) =
      (if 0 < p.depth then
        [issueAt file Rule.braceUnclosed
          ("Unclosed brace: " ++ toString p.depth ++ " opening brace(s) without matching close")
          last]
       else []) ++
      (match p.region with
       | .code => []
       | .comment => [issueAt file Rule.commentUnclosed "Unclosed comment" last]
       | .string _ => [issueAt file Rule.stringUnclosed "Unclosed string" last]) := by
  obtain ⟨depth, region⟩ := p
  have hdepth : 0 < depth → toString depth.toNat = toString depth := by
    intro hpos
    obtain ⟨n, rfl⟩ := Int.eq_ofNat_of_zero_le (Int.le_of_lt hpos)
    rfl
  unfold endIssues
  by_cases hpos : 0 < depth
  · cases region <;> simp [Pass.scan, hpos, hdepth hpos]
  · cases region <;> simp [Pass.scan, hpos]

/-- **The scan of lines is one pass over the text.** A stylesheet has the issues
of the pass: a closing brace with nothing open is reported at its line and at its
distance from the start of that line, and what is open at the end is reported at
the start of the last line. -/
theorem line_scan_eq_pass (file : SourceFile) :
    let text := file.content.toList
    let lines := 1 + text.count '\n'
    let strays := (pass [] {} text).1
    let last := (pass [] {} text).2
    (check file).result = .ok (
      strays.map (fun k => issueAt file "unbalanced-brace-unexpected" "Unexpected closing brace"
        (1 + (text.take k).count '\n') (k - lineStart text k)) ++
      ((if 0 < last.depth then
        [issueAt file "unbalanced-brace-unclosed"
          ("Unclosed brace: " ++ toString last.depth ++
            " opening brace(s) without matching close") lines]
       else []) ++
      (match last.region with
       | .code => []
       | .comment => [issueAt file "comment-unclosed" "Unclosed comment" lines]
       | .string _ => [issueAt file "string-unclosed" "Unclosed string" lines]))) ∧
    ∀ k, lineStart text k ≤ k ∧
      (lineStart text k = 0 ∨ text[lineStart text k - 1]? = some '\n') ∧
      '\n' ∉ (text.take k).drop (lineStart text k) := by
  intro text lines strays last
  have hscan : scanLines 1 {} (splitOn '\n' text) = (strays.map (placeAt text), last.scan []) := by
    rw [scanLines_eq_resume]
    exact resumeAt_eq_pass [] {} text ⟨Int.le_refl 0, by simp⟩
  have hlines : (splitOn '\n' text).length = lines := length_splitOn '\n' text
  refine ⟨?_, lineStart_spec text⟩
  change Except.ok (List.map _ (scanLines 1 {} (splitOn '\n' text)).1 ++
    endIssues file (splitOn '\n' text).length (scanLines 1 {} (splitOn '\n' text)).2) = _
  rw [hscan, hlines, endIssues_scan, List.map_map]
  rfl

-- the slash in `/*/` does not end the comment, so only the last brace is code
example :
    (issues { path := "a.css", content := "/*/\x7d\n*/\x7d" }).map (fun i => (i.line, i.column)) =
      [(2, 2)] := by decide +kernel

end SiteAudit.Stylesheet
