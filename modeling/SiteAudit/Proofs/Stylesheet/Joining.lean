import SiteAudit.Proofs.Text.Lines
import SiteAudit.Stylesheet.Balance

/-!
# The report of a stylesheet that continues another

A stylesheet is put under another with a line end between them. The scan takes
nothing from one line to the next but the open braces and the mode, so if the
upper sheet ends with neither, the lower one is scanned as if it stood alone,
some lines further down. If the upper sheet leaves something open, this is
reported at the end of the file, which is then another line.

* `scanLines_append`: the lines of the lower sheet are scanned from the state in
  which the upper one ends.
* `scanLine_lower`, `scanLines_lower`: the number of the first line moves the
  places that are found, and nothing else.
* `sheets_join_iff`: the law, and that it needs its condition.
-/
namespace SiteAudit.Stylesheet

open Text

/-! ## Lines further down -/

/-- A place with its line moved down. -/
def Place.lower (lines : Nat) (p : Place) : Place := { p with line := p.line + lines }

/-- What a line is numbered decides nothing in its scan. -/
theorem scanLine_lower (lines line column : Nat) (s : Scan) (text : List Char) :
    scanLine (line + lines) column s text =
      ((scanLine line column s text).1.map (Place.lower lines),
        (scanLine line column s text).2) := by
  fun_induction scanLine line column s text with
  | case1 column s => rfl
  | case2 column depth r ih => simpa [scanLine] using ih
  | case3 column depth r ih => simpa [scanLine] using ih
  | case4 column depth c r hend ih => simpa [scanLine.eq_4 _ _ _ c r hend] using ih
  | case5 column depth q escaped c r hclose ih => simpa [scanLine, hclose] using ih
  | case6 column depth q escaped c r hclose ih => simpa [scanLine, hclose] using ih
  | case7 column depth c r hopen hquote ih =>
    simpa [scanLine.eq_6 _ _ _ c r hopen, hquote] using ih
  | case8 column depth r _ _ ih => simpa [scanLine, isQuote] using ih
  | case9 column r found s hrun _ _ _ ih =>
    rw [hrun] at ih
    simp [scanLine, isQuote, ih, Place.lower]
  | case10 column depth r hdepth _ _ _ ih => simpa [scanLine, isQuote, hdepth] using ih
  | case11 column depth c r hopen hquote ho hc ih =>
    simpa [scanLine.eq_6 _ _ _ c r hopen, hquote, ho, hc] using ih

theorem scanLines_lower (lines line : Nat) (s : Scan) (texts : List (List Char)) :
    scanLines (line + lines) s texts =
      ((scanLines line s texts).1.map (Place.lower lines), (scanLines line s texts).2) := by
  induction texts generalizing line s with
  | nil => rfl
  | cons text more ih =>
    have hnext : line + lines + 1 = line + 1 + lines := Nat.add_right_comm line lines 1
    simp only [scanLines, scanLine_lower, hnext, ih, List.map_append]

theorem scanLines_append (line : Nat) (s : Scan) (above below : List (List Char)) :
    scanLines line s (above ++ below) =
      ((scanLines line s above).1 ++
          (scanLines (line + above.length) (scanLines line s above).2 below).1,
        (scanLines (line + above.length) (scanLines line s above).2 below).2) := by
  induction above generalizing line s with
  | nil => rfl
  | cons text more ih =>
    have hnext : line + 1 + more.length = line + (more.length + 1) := by omega
    simp only [List.cons_append, scanLines, ih, List.length_cons, hnext, List.append_assoc]

/-! ## Issues further down -/

/-- An issue with its line moved down. -/
def lowered (lines : Nat) (i : Issue) : Issue := { i with line := i.line + lines }

def strayIssue (file : SourceFile) (p : Place) : Issue :=
  issueAt file Rule.braceUnexpected "Unexpected closing brace" p.line p.column

theorem endIssues_lowered (file : SourceFile) (lines last : Nat) (s : Scan) :
    (endIssues file last s).map (lowered lines) = endIssues file (last + lines) s := by
  unfold endIssues
  split <;> cases s.mode <;> rfl

theorem line_of_mem_endIssues {file : SourceFile} {last : Nat} {s : Scan} {i : Issue}
    (h : i ∈ endIssues file last s) : i.line = last := by
  unfold endIssues at h
  rcases List.mem_append.mp h with hbrace | hmode
  · split at hbrace
    · rw [List.mem_singleton.mp hbrace]
      rfl
    · cases hbrace
  · split at hmode
    · cases hmode
    · rw [List.mem_singleton.mp hmode]
      rfl
    · rw [List.mem_singleton.mp hmode]
      rfl

theorem endIssues_nil_iff {file : SourceFile} {last : Nat} {s : Scan} :
    endIssues file last s = [] ↔ s = {} := by
  obtain ⟨depth, mode⟩ := s
  constructor
  · intro h
    obtain ⟨hbrace, hmode⟩ := List.append_eq_nil_iff.mp h
    have hdepth : depth = 0 := by simpa using hbrace
    cases mode with
    | code => rw [hdepth]
    | comment => cases hmode
    | string quote escaped => cases hmode
  · intro h
    cases h
    rfl

/-- The same issues at the end of two files with different numbers of lines: there
are none. -/
theorem endIssues_move_iff {file : SourceFile} {last lines : Nat} {s : Scan} (h : 0 < lines) :
    endIssues file (last + lines) s = endIssues file last s ↔ s = {} := by
  constructor
  · intro heq
    apply endIssues_nil_iff.mp
    refine List.eq_nil_iff_forall_not_mem.mpr fun i hi => ?_
    have hlast : i.line = last := line_of_mem_endIssues hi
    have hmoved : i.line = last + lines := line_of_mem_endIssues (heq ▸ hi)
    omega
  · rintro rfl
    rfl

/-! ## Joined sheets -/

def lastState (text : List Char) : Scan := (scanLines 1 {} (splitOn '\n' text)).2

/-- The closing braces with nothing open that the scan of a text finds. -/
def strays (text : List Char) : List Place := (scanLines 1 {} (splitOn '\n' text)).1

theorem issues_eq_strays (file : SourceFile) :
    issues file = (strays file.content.toList).map (strayIssue file) ++
      endIssues file (1 + file.content.toList.count '\n') (lastState file.content.toList) := by
  rw [← length_splitOn]
  rfl

/-- Two texts with a line end between them, if the upper one ends with nothing
open. -/
theorem scan_joined {a : List Char} (h : lastState a = {}) (b : List Char) :
    strays (a ++ '\n' :: b) = strays a ++ (strays b).map (Place.lower (1 + a.count '\n')) ∧
      lastState (a ++ '\n' :: b) = lastState b := by
  unfold strays lastState at *
  rw [splitOn_append, scanLines_append, h, length_splitOn, scanLines_lower]
  exact ⟨rfl, rfl⟩

theorem scan_newline (a : List Char) :
    strays (a ++ ['\n']) = strays a ∧ lastState (a ++ ['\n']) = (lastState a).nextLine := by
  unfold strays lastState
  rw [splitOn_append, scanLines_append]
  simp [splitOn, scanLines, scanLine]

theorem endIssues_nextLine (file : SourceFile) (last : Nat) (s : Scan) :
    endIssues file last s.nextLine = endIssues file last s := by
  obtain ⟨depth, mode⟩ := s
  cases mode <;> rfl

/-- The report of an upper sheet with nothing behind its line end is that of the
sheet alone only if the sheet leaves nothing open. -/
theorem lastState_of_joined {path a : String}
    (h : issues ⟨path, a ++ "\n" ++ ""⟩ =
      issues ⟨path, a⟩ ++ (issues ⟨path, ""⟩).map (lowered (1 + a.toList.count '\n'))) :
    lastState a.toList = {} := by
  have htext : (a ++ "\n" ++ "").toList = a.toList ++ ['\n'] := by simp
  have hempty : issues ⟨path, ""⟩ = [] := rfl
  obtain ⟨hstrays, hlast⟩ := scan_newline a.toList
  have hlines : 1 + (a.toList ++ ['\n']).count '\n' = 1 + a.toList.count '\n' + 1 := by
    simp [Nat.add_assoc]
  rw [issues_eq_strays, issues_eq_strays, hempty, List.map_nil, List.append_nil] at h
  simp only [htext, hstrays, hlast, hlines, endIssues_nextLine] at h
  exact (endIssues_move_iff Nat.one_pos).mp (List.append_cancel_left h)

theorem issues_joined {path a : String} (h : lastState a.toList = {}) (b : String) :
    issues ⟨path, a ++ "\n" ++ b⟩ =
      issues ⟨path, a⟩ ++ (issues ⟨path, b⟩).map (lowered (1 + a.toList.count '\n')) := by
  have htext : (a ++ "\n" ++ b).toList = a.toList ++ '\n' :: b.toList := by simp
  obtain ⟨hstrays, hlast⟩ := scan_joined h b.toList
  have hlines : 1 + (a.toList ++ '\n' :: b.toList).count '\n' =
      1 + b.toList.count '\n' + (1 + a.toList.count '\n') := by
    simp
    omega
  have hnone : endIssues ⟨path, a⟩ (1 + a.toList.count '\n') {} = [] := rfl
  simp only [issues_eq_strays, htext, hstrays, hlast, hlines, h, hnone, List.map_append,
    List.map_map, List.append_nil, List.append_assoc, endIssues_lowered]
  rfl

theorem eq_initial_iff {s : Scan} : s = {} ↔ s.depth = 0 ∧ s.mode = .code := by
  constructor
  · rintro rfl
    exact ⟨rfl, rfl⟩
  · obtain ⟨depth, mode⟩ := s
    rintro ⟨rfl, rfl⟩
    rfl

/-- **Joined sheets.** A stylesheet ends outside comments and strings with no brace
open exactly if every sheet that is put under it, balanced or not, keeps its report:
the report of both is that of the upper sheet, and then that of the lower one with
its lines moved down by the lines of the upper. -/
theorem sheets_join_iff (path a : String) :
    (lastState a.toList).depth = 0 ∧ (lastState a.toList).mode = .code ↔
      ∀ b : String, ∃ upper lower,
        (check ⟨path, a⟩).result = .ok upper ∧ (check ⟨path, b⟩).result = .ok lower ∧
        (check ⟨path, a ++ "\n" ++ b⟩).result = .ok (upper ++
          lower.map (fun i => { i with line := i.line + (1 + a.toList.count '\n') })) := by
  rw [← eq_initial_iff]
  constructor
  · intro h b
    exact ⟨issues ⟨path, a⟩, issues ⟨path, b⟩, rfl, rfl, congrArg Except.ok (issues_joined h b)⟩
  · intro hlaw
    obtain ⟨upper, lower, hupper, hlower, hboth⟩ := hlaw ""
    obtain rfl : issues ⟨path, a⟩ = upper := Except.ok.inj hupper
    obtain rfl : issues ⟨path, ""⟩ = lower := Except.ok.inj hlower
    exact lastState_of_joined (Except.ok.inj hboth)

end SiteAudit.Stylesheet
