import SiteAudit.Text.Blank

/-!
# What trimming leaves, and the words of a text

`trim`, `trimEnd` and `words` say how to come by their results. Here is what the
results are, in terms of the whole text.

* `trim_isTrimmed`, `trimEnd_isEndTrimmed`: only blanks are taken off, and no blank
  is left at the ends in question.
* `words_eq_iff`: the words of a text are its maximal runs of characters that are
  no blanks (`Runs`), and nothing else is.
-/
namespace SiteAudit.Text

/-! ## Trimming -/

/-- `t` is `s` without the blanks at its end. -/
def IsEndTrimmed (s t : List Char) : Prop :=
  ∃ tail, s = t ++ tail ∧ (∀ c ∈ tail, isBlank c = true) ∧ ∀ c ∈ t.getLast?, isBlank c = false

/-- `t` is `s` without the blanks at its front and at its end. -/
def IsTrimmed (s t : List Char) : Prop :=
  ∃ lead tail, s = lead ++ t ++ tail ∧ (∀ c ∈ lead, isBlank c = true) ∧
    (∀ c ∈ tail, isBlank c = true) ∧ (∀ c ∈ t.head?, isBlank c = false) ∧
    ∀ c ∈ t.getLast?, isBlank c = false

theorem head?_dropWhile_blank (s : List Char) :
    ∀ c ∈ (s.dropWhile isBlank).head?, isBlank c = false := by
  intro c hc
  have hnot := List.head?_dropWhile_not isBlank s
  rw [Option.mem_def.mp hc] at hnot
  simpa using hnot

theorem trimEnd_isEndTrimmed (s : List Char) : IsEndTrimmed s (trimEnd s) := by
  refine ⟨(s.reverse.takeWhile isBlank).reverse, ?_, fun c hc => ?_, fun c hc => ?_⟩
  · rw [trimEnd, trimEndBy, ← List.reverse_append, List.takeWhile_append_dropWhile,
      List.reverse_reverse]
  · exact List.all_eq_true.mp List.all_takeWhile c (List.mem_reverse.mp hc)
  · rw [trimEnd, trimEndBy, List.getLast?_reverse] at hc
    exact head?_dropWhile_blank _ c hc

theorem trim_isTrimmed (s : List Char) : IsTrimmed s (trim s) := by
  obtain ⟨tail, hstart, htail, hlast⟩ := trimEnd_isEndTrimmed (trimStart s)
  refine ⟨s.takeWhile isBlank, tail, ?_, List.all_eq_true.mp List.all_takeWhile, htail, ?_, hlast⟩
  · rw [trim, List.append_assoc, ← hstart, trimStart, trimStartBy,
      List.takeWhile_append_dropWhile]
  · intro c hc
    -- what is left begins as it did before its end was trimmed
    refine head?_dropWhile_blank s c ?_
    rw [trimStart, trimStartBy] at hstart
    rw [hstart, List.head?_append, ← trimStartBy, ← trimStart, ← trim, Option.mem_def.mp hc]
    rfl

/-! ## Words -/

/-- The maximal runs of characters that are no blanks, in order: in front of each
run, and behind the last, are blanks or nothing, and behind each a blank or the
end of the text. -/
inductive Runs : List Char → List (List Char) → Prop
  | blank {gap : List Char} (hgap : ∀ c ∈ gap, isBlank c = true) : Runs gap []
  | run {gap word rest : List Char} {more : List (List Char)}
      (hgap : ∀ c ∈ gap, isBlank c = true) (hne : word ≠ [])
      (hword : ∀ c ∈ word, isBlank c = false) (hend : ∀ c ∈ rest.head?, isBlank c = true)
      (hmore : Runs rest more) : Runs (gap ++ word ++ rest) (word :: more)

theorem Runs.cons_blank {c : Char} (hc : isBlank c = true) {s : List Char}
    {ws : List (List Char)} (h : Runs s ws) : Runs (c :: s) ws := by
  cases h with
  | blank hgap => exact .blank (List.forall_mem_cons.mpr ⟨hc, hgap⟩)
  | run hgap hne hword hend hmore =>
    exact .run (List.forall_mem_cons.mpr ⟨hc, hgap⟩) hne hword hend hmore

theorem Runs.lead {word rest : List Char} {more : List (List Char)} (hne : word ≠ [])
    (hword : ∀ c ∈ word, isBlank c = false) (hend : ∀ c ∈ rest.head?, isBlank c = true)
    (hmore : Runs rest more) : Runs (word ++ rest) (word :: more) :=
  .run (List.forall_mem_nil _) hne hword hend hmore

theorem wordsFrom_nil (word : List Char) :
    wordsFrom word [] = if word = [] then [] else [word.reverse] := by
  cases word <;> rfl

theorem wordsFrom_cons (word : List Char) (c : Char) (s : List Char) :
    wordsFrom word (c :: s) =
      if isBlank c then
        if word.isEmpty then wordsFrom [] s else word.reverse :: wordsFrom [] s
      else wordsFrom (c :: word) s := by
  cases word <;> rfl

/-- The runs of a text that goes on behind the part of a run that is read. -/
theorem wordsFrom_runs (word s : List Char) (hword : ∀ c ∈ word, isBlank c = false) :
    Runs (word.reverse ++ s) (wordsFrom word s) := by
  fun_induction wordsFrom word s with
  | case1 => exact .blank (List.forall_mem_nil _)
  | case2 word hne =>
    exact .lead (by simpa using hne) (by simpa using hword) (by simp) (.blank (by simp))
  | case3 word c r hblank hnone ih =>
    obtain rfl := List.isEmpty_iff.mp hnone
    exact (ih hword).cons_blank hblank
  | case4 word c r hblank hsome ih =>
    refine .lead (by simpa using hsome) (by simpa using hword) (by simpa using hblank) ?_
    exact (ih (List.forall_mem_nil _)).cons_blank hblank
  | case5 word c r hletter ih =>
    have hruns := ih (List.forall_mem_cons.mpr ⟨by simpa using hletter, hword⟩)
    simpa using hruns

theorem wordsFrom_blanks {gap : List Char} (h : ∀ c ∈ gap, isBlank c = true) (s : List Char) :
    wordsFrom [] (gap ++ s) = wordsFrom [] s := by
  induction gap with
  | nil => rfl
  | cons c gap ih =>
    obtain ⟨hc, hgap⟩ := List.forall_mem_cons.mp h
    rw [List.cons_append, wordsFrom_cons, if_pos hc]
    exact ih hgap

theorem wordsFrom_letters {word : List Char} (h : ∀ c ∈ word, isBlank c = false)
    (before rest : List Char) :
    wordsFrom before (word ++ rest) = wordsFrom (word.reverse ++ before) rest := by
  induction word generalizing before with
  | nil => rfl
  | cons c word ih =>
    obtain ⟨hc, hword⟩ := List.forall_mem_cons.mp h
    rw [List.cons_append, wordsFrom_cons, if_neg (by simp [hc]), ih hword]
    simp

theorem wordsFrom_end {word : List Char} (hne : word ≠ []) {rest : List Char}
    (hend : ∀ c ∈ rest.head?, isBlank c = true) :
    wordsFrom word rest = word.reverse :: wordsFrom [] rest := by
  have hsome : word.isEmpty = false := by simpa using hne
  cases rest with
  | nil => simp [wordsFrom_nil, hne]
  | cons c rest => simp [wordsFrom_cons, hend c rfl, hsome]

/-- **Words.** The words of a text are its maximal runs of characters that are no
blanks. -/
theorem words_eq_iff {s : List Char} {ws : List (List Char)} : words s = ws ↔ Runs s ws := by
  constructor
  · rintro rfl
    exact wordsFrom_runs [] s (by simp)
  · intro h
    induction h with
    | blank hgap => simpa [words, wordsFrom_nil] using wordsFrom_blanks hgap []
    | run hgap hne hword hend _ ih =>
      rw [words] at ih ⊢
      rw [List.append_assoc, wordsFrom_blanks hgap, wordsFrom_letters hword, List.append_nil,
        wordsFrom_end (by simpa using hne) hend, List.reverse_reverse, ih]

end SiteAudit.Text
