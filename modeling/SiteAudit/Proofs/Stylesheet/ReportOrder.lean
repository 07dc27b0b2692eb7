import SiteAudit.Proofs.Stylesheet.Guards

/-!
# The order of a stylesheet's report

The report lists the closing braces with nothing open in the order in which they
stand in the sheet, then at most one issue for braces left open, then at most one
for what the sheet ends in.

* `scanLine_marks`: what the scan of a line finds are closing braces of the line,
  from left to right.
* `scanLines_marked`: on all lines, from the first to the last.
* `report_in_order`: the report of a stylesheet, and why its last two tests never
  both fire.
-/
namespace SiteAudit.Stylesheet

open Text

/-! ## One line -/

/-- Places on the line `line`, whose text from column `column` on is `text`: each is
that of a closing brace, and they go from left to right. -/
structure Marks (line column : Nat) (text : List Char) (places : List Place) : Prop where
  line : ∀ p ∈ places, p.line = line
  brace : ∀ p ∈ places, ∃ k, p.column = column + k ∧ text[k]? = some '}'
  sorted : places.Pairwise (fun p q => p.column < q.column)

theorem Marks.behind {line column : Nat} {text : List Char} {places : List Place}
    (lead : List Char) (h : Marks line (column + lead.length) text places) :
    Marks line column (lead ++ text) places where
  line := h.line
  brace p hp := by
    obtain ⟨k, hcolumn, hbrace⟩ := h.brace p hp
    refine ⟨lead.length + k, by omega, ?_⟩
    rw [List.getElem?_append_right (Nat.le_add_right ..), Nat.add_sub_cancel_left]
    exact hbrace
  sorted := h.sorted

theorem Marks.found {line column : Nat} {text : List Char} {places : List Place}
    (h : Marks line (column + 1) text places) :
    Marks line column ('}' :: text) (⟨line, column⟩ :: places) where
  line p hp := by
    rcases List.mem_cons.mp hp with rfl | hp
    · rfl
    · exact h.line p hp
  brace p hp := by
    rcases List.mem_cons.mp hp with rfl | hp
    · exact ⟨0, rfl, rfl⟩
    · exact (Marks.behind ['}'] h).brace p hp
  sorted := by
    refine List.pairwise_cons.mpr ⟨fun p hp => ?_, h.sorted⟩
    obtain ⟨k, hcolumn, -⟩ := h.brace p hp
    dsimp only
    omega

theorem scanLine_marks (line column : Nat) (s : Scan) (text : List Char) :
    Marks line column text (scanLine line column s text).1 := by
  fun_induction scanLine line column s text with
  | case1 column s => exact ⟨by simp, by simp, .nil⟩
  | case2 column depth r ih => exact ih.behind ['/', '*']
  | case3 column depth r ih => exact ih.behind ['*', '/']
  | case4 column depth c r _ ih => exact ih.behind [c]
  | case5 column depth q escaped c r _ ih => exact ih.behind [c]
  | case6 column depth q escaped c r _ ih => exact ih.behind [c]
  | case7 column depth c r _ _ ih => exact ih.behind [c]
  | case8 column depth r _ _ ih => exact ih.behind ['{']
  | case9 column r found s hrun _ _ _ ih =>
    rw [hrun] at ih
    exact ih.found
  | case10 column depth r _ _ _ _ ih => exact ih.behind ['}']
  | case11 column depth c r _ _ _ _ ih => exact ih.behind [c]

/-! ## All lines -/

/-- Whether a place stands before another: on a line above, or further left. -/
def Place.Precedes (p q : Place) : Prop :=
  p.line < q.line ∨ p.line = q.line ∧ p.column < q.column

/-- Places on lines, the first of which is `line`: each is that of a closing brace,
and they go from the first line to the last. -/
structure Marked (line : Nat) (texts : List (List Char)) (places : List Place) : Prop where
  brace : ∀ p ∈ places, ∃ k text, p.line = line + k ∧ texts[k]? = some text ∧
    text[p.column]? = some '}'
  sorted : places.Pairwise Place.Precedes

theorem Marked.cons {line : Nat} {text : List Char} {texts : List (List Char)}
    {here later : List Place} (h : Marks line 0 text here)
    (hlater : Marked (line + 1) texts later) : Marked line (text :: texts) (here ++ later) where
  brace p hp := by
    rcases List.mem_append.mp hp with hp | hp
    · obtain ⟨k, hcolumn, hbrace⟩ := h.brace p hp
      obtain rfl : p.column = k := by omega
      exact ⟨0, text, h.line p hp, rfl, hbrace⟩
    · obtain ⟨k, below, hline, hbelow, hbrace⟩ := hlater.brace p hp
      exact ⟨k + 1, below, by omega, hbelow, hbrace⟩
  sorted := by
    refine List.pairwise_append.mpr ⟨?_, hlater.sorted, fun p hp q hq => ?_⟩
    · refine h.sorted.imp_of_mem fun hp hq hlt => Or.inr ⟨?_, hlt⟩
      rw [h.line _ hp, h.line _ hq]
    · obtain ⟨k, below, hline, -, -⟩ := hlater.brace q hq
      have := h.line p hp
      exact Or.inl (by omega)

theorem scanLines_marked (line : Nat) (s : Scan) (texts : List (List Char)) :
    Marked line texts (scanLines line s texts).1 := by
  induction texts generalizing line s with
  | nil => exact ⟨by simp [scanLines], .nil⟩
  | cons text more ih => exact (ih (line + 1) _).cons (scanLine_marks line 0 s text)

/-! ## The report -/

/-- Behind the front of a line, the characters since the last line end are those of
the line. -/
theorem takeWhile_line {front line : List Char} (h : BeginsBehind '\n' front)
    (hline : '\n' ∉ line) : (front ++ line).reverse.takeWhile (· != '\n') = line.reverse := by
  have hall : ∀ c ∈ line.reverse, (c != '\n') = true := by
    intro c hc
    simp only [bne_iff_ne, ne_eq]
    rintro rfl
    exact hline (List.mem_reverse.mp hc)
  have hfront : front.reverse.takeWhile (· != '\n') = [] := by
    rcases h with rfl | hlast
    · rfl
    · obtain ⟨above, rfl⟩ := List.getLast?_eq_some_iff.mp hlast
      simp
  rw [List.reverse_append, List.takeWhile_append_of_pos hall, hfront, List.append_nil]

/-- A brace that is found is one of the text, on its line and at its column. -/
theorem mem_strays {text : List Char} {p : Place} (h : p ∈ strays text) :
    ∃ front rest, text = front ++ '}' :: rest ∧ p.line = 1 + front.count '\n' ∧
      p.column = (front.reverse.takeWhile (· != '\n')).length := by
  obtain ⟨k, piece, hline, hpiece, hbrace⟩ :=
    (scanLines_marked 1 {} (splitOn '\n' text)).brace p h
  obtain ⟨front, rest, rfl, hcount, hfront, hnone, -⟩ := getElem?_splitOn_iff.mp hpiece
  obtain ⟨hlt, hget⟩ := List.getElem?_eq_some_iff.mp hbrace
  have hcut : piece = piece.take p.column ++ '}' :: piece.drop (p.column + 1) := by
    rw [← hget, ← List.drop_eq_getElem_cons hlt, List.take_append_drop]
  have hleft : '\n' ∉ piece.take p.column := fun hmem => hnone (List.mem_of_mem_take hmem)
  refine ⟨front ++ piece.take p.column, piece.drop (p.column + 1) ++ rest, ?_, ?_, ?_⟩
  · calc front ++ piece ++ rest
        = front ++ (piece.take p.column ++ '}' :: piece.drop (p.column + 1)) ++ rest := by
          rw [← hcut]
      _ = _ := by simp
  · rw [hline, List.count_append, hcount, List.count_eq_zero.mpr hleft, Nat.add_zero]
  · rw [takeWhile_line hfront hleft, List.length_reverse, List.length_take]
    omega

/-- What is reported at the end: the braces left open, and then what the text ends
in, which is one thing. -/
theorem endIssues_shape (file : SourceFile) (last : Nat) (s : Scan) :
    ∃ unclosed ending, endIssues file last s = unclosed ++ ending ∧
      (unclosed = [] ∨ ∃ n, 0 < n ∧ unclosed = [issueAt file Rule.braceUnclosed
        ("Unclosed brace: " ++ toString n ++ " opening brace(s) without matching close") last]) ∧
      (ending = [] ∨ ending = [issueAt file Rule.commentUnclosed "Unclosed comment" last] ∨
        ending = [issueAt file Rule.stringUnclosed "Unclosed string" last]) := by
  obtain ⟨depth, mode⟩ := s
  refine ⟨_, _, rfl, ?_, ?_⟩
  · split
    · next hpos => exact Or.inr ⟨depth, hpos, rfl⟩
    · exact Or.inl rfl
  · cases mode with
    | code => exact Or.inl rfl
    | comment => exact Or.inr (Or.inl rfl)
    | string quote escaped => exact Or.inr (Or.inr rfl)

/-- **The order of the report.** Wherever the scan with two flags stands, it is not
in a string and in a comment at once, and its depth is not negative; its report is
that of the check. This lists the unexpected closing braces strictly by line and
column, each at a closing brace of the sheet, then at most one issue for braces left
open, and then at most one for an unclosed comment or an unclosed string. -/
theorem report_in_order (file : SourceFile) :
    let text := file.content.toList
    let last := 1 + text.count '\n'
    (∀ c, Reached text c →
      ¬(c.flags.inString = true ∧ c.flags.inComment = true) ∧ 0 ≤ c.flags.depth) ∧
    (check file).result = .ok (guardedIssues file) ∧
    ∃ (places : List Place) (unclosed ending : List Issue),
      (check file).result = .ok (places.map (fun p => issueAt file "unbalanced-brace-unexpected"
        "Unexpected closing brace" p.line p.column) ++ unclosed ++ ending) ∧
      places.Pairwise (fun p q => p.line < q.line ∨ p.line = q.line ∧ p.column < q.column) ∧
      (∀ p ∈ places, ∃ front rest, text = front ++ '}' :: rest ∧
        p.line = 1 + front.count '\n' ∧ p.column = (front.reverse.takeWhile (· != '\n')).length) ∧
      (unclosed = [] ∨ ∃ n, 0 < n ∧ unclosed = [issueAt file "unbalanced-brace-unclosed"
        ("Unclosed brace: " ++ toString n ++ " opening brace(s) without matching close") last]) ∧
      (ending = [] ∨ ending = [issueAt file "comment-unclosed" "Unclosed comment" last] ∨
        ending = [issueAt file "string-unclosed" "Unclosed string" last]) := by
  intro text last
  obtain ⟨unclosed, ending, hend, hunclosed, hending⟩ := endIssues_shape file last (lastState text)
  refine ⟨fun c hc => ?_, ?_, strays text, unclosed, ending, ?_, ?_, ?_, hunclosed, hending⟩
  · have hsound := reached_sound hc
    exact ⟨hsound.apart, hsound.depth⟩
  · rw [guardedIssues_eq]
    rfl
  · have hissues := issues_eq_strays file
    rw [hend, ← List.append_assoc] at hissues
    exact congrArg Except.ok hissues
  · exact (scanLines_marked 1 {} (splitOn '\n' text)).sorted
  · exact fun p hp => mem_strays hp

end SiteAudit.Stylesheet
