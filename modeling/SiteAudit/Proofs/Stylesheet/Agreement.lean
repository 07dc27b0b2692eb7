import SiteAudit.Proofs.Stylesheet.Blocks

/-!
# Two readers of one stylesheet

The balance check walks through a stylesheet line by line and knows at each
character whether it is in a comment. The search for selectors first takes the
comments out of the whole text and then counts what is left. `Uncommented` says
what is code and what is comment without either of them, and both are compared
with it.

* `stripComments_uncommented`: taking the comments out leaves the code.
* `trace_uncommented`: without quotes, the check counts the braces of the code.
* `scanners_meet_same_braces`: so both meet the same braces, and where the check
  is content the search finds the selectors of a list of blocks.
-/
namespace SiteAudit.Stylesheet

open Text

/-- `Uncommented text code`: every comment of `text` is closed, and `code` is the
text without its comments. A comment goes from `/*` to the next `*/`. -/
inductive Uncommented : List Char → List Char → Prop where
  | nil : Uncommented [] []
  | code (c : Char) {text code : List Char} (h : ¬['/', '*'] <+: c :: text)
      (more : Uncommented text code) : Uncommented (c :: text) (c :: code)
  | comment (body : List Char) {text code : List Char} (h : ¬['*', '/'] <:+: body)
      (more : Uncommented text code) :
      Uncommented ('/' :: '*' :: (body ++ '*' :: '/' :: text)) code

/-! ## Inside a comment -/

/-- What stands in a comment before its end does not end it: the next two
characters are the end of the comment only where the body is read. -/
theorem not_end_of_body {c : Char} {body text t : List Char}
    (h : ¬['*', '/'] <:+: c :: body) (hc : c = '*') :
    body ++ '*' :: '/' :: text ≠ '/' :: t := by
  subst hc
  cases body with
  | nil => simp
  | cons d more =>
    intro heq
    obtain ⟨rfl, -⟩ := List.cons.inj heq
    exact h ⟨[], more, rfl⟩

theorem not_infix_tail {c : Char} {body : List Char} (h : ¬['*', '/'] <:+: c :: body) :
    ¬['*', '/'] <:+: body :=
  fun hin => h (hin.trans (List.suffix_cons c body).isInfix)

theorem stripCommentsFrom_body {body : List Char} (h : ¬['*', '/'] <:+: body) (text : List Char) :
    commentCloses (body ++ '*' :: '/' :: text) = true ∧
      stripCommentsFrom true (body ++ '*' :: '/' :: text) = stripCommentsFrom false text := by
  induction body with
  | nil => simp [commentCloses, stripCommentsFrom]
  | cons c body ih =>
    have hend : ∀ t, c = '*' → body ++ '*' :: '/' :: text = '/' :: t → False :=
      fun t hc => not_end_of_body h hc
    rw [List.cons_append, commentCloses.eq_3 c _ hend, stripCommentsFrom.eq_4 c _ hend]
    exact ih (not_infix_tail h)

theorem trace_body {body : List Char} (h : ¬['*', '/'] <:+: body) (before text : List Char) :
    trace before .comment (body ++ '*' :: '/' :: text) =
      trace ('/' :: '*' :: (body.reverse ++ before)) .code text := by
  induction body generalizing before with
  | nil => simp [trace]
  | cons c body ih =>
    rw [List.cons_append, trace.eq_4 before c _ fun t hc => not_end_of_body h hc,
      ih (not_infix_tail h)]
    simp

/-! ## Whole texts -/

/-- A character of the code does not begin a comment, in the form in which the
two readers ask. -/
theorem not_start_of_code {c : Char} {text : List Char} (h : ¬['/', '*'] <+: c :: text)
    (t : List Char) (hc : c = '/') : text ≠ '*' :: t := by
  subst hc
  rintro rfl
  exact h ⟨t, rfl⟩

theorem stripComments_uncommented {text code : List Char} (h : Uncommented text code) :
    stripComments text = code := by
  induction h with
  | nil => rfl
  | code c h _ ih =>
    rw [stripComments, stripCommentsFrom.eq_5 c _ (not_start_of_code h)]
    exact congrArg (c :: ·) ih
  | comment body h _ ih =>
    obtain ⟨hcloses, hstrip⟩ := stripCommentsFrom_body h _
    rw [stripComments, stripCommentsFrom.eq_2, if_pos hcloses, hstrip]
    exact ih

/-- Without quotes the check is never in a string, so it counts the braces of the
code, and the end of the text is code. -/
theorem trace_uncommented {text code : List Char} (h : Uncommented text code)
    (hquotes : ∀ c ∈ text, isQuote c = false) (before : List Char) :
    (trace before .code text).1.map Prod.snd = code.filter isBrace ∧
      (trace before .code text).2 = .code := by
  induction h generalizing before with
  | nil => simp [trace]
  | code c h _ ih =>
    obtain ⟨hc, hmore⟩ := List.forall_mem_cons.mp hquotes
    have hquote : ¬(c = '"' ∨ c = '\'') := by simpa [isQuote] using hc
    obtain ⟨hbraces, hend⟩ := ih hmore (c :: before)
    rw [trace.eq_6 before c _ (not_start_of_code h), if_neg hquote]
    by_cases hb : c = '{' ∨ c = '}'
    · have : isBrace c = true := by simpa [isBrace] using hb
      simp [hb, this, hbraces, hend]
    · have : isBrace c = false := by simpa [isBrace] using hb
      simp [hb, this, hbraces, hend]
  | comment body h _ ih =>
    -- the comment moves the offsets only, over which the induction is general
    rw [trace.eq_2, trace_body h]
    refine ih (fun c hc => hquotes c ?_) _
    simp [hc]

theorem stripUrls_eq_self {s : List Char} (h : ∀ t, t <:+ s → startsUrl t = false) :
    stripUrls s = s := by
  induction s with
  | nil => rfl
  | cons c r ih =>
    have hc : ¬startsUrl (c :: r) = true := by simp [h (c :: r) (List.suffix_refl _)]
    rw [stripUrls, stripUrlsFrom, if_neg hc]
    exact congrArg (c :: ·) (ih fun t ht => h t (ht.trans (List.suffix_cons c r)))

theorem balanced_of_check {file : SourceFile} {code : List Char}
    (hclosed : Uncommented file.content.toList code)
    (hquotes : ∀ c ∈ file.content.toList, isQuote c = false)
    (h : (check file).result = .ok []) : Balanced code := by
  obtain ⟨hbraces, -⟩ := trace_uncommented hclosed hquotes []
  have hbrace : ∀ b ∈ (trace [] .code file.content.toList).1, isBrace b.2 = true := by
    intro b hb
    have hmem := List.mem_map_of_mem (f := Prod.snd) hb
    rw [hbraces] at hmem
    exact (List.mem_filter.mp hmem).2
  obtain ⟨strays, last, hcount⟩ : ∃ strays last,
      count 0 (trace [] .code file.content.toList).1 = (strays, last) := ⟨_, _, rfl⟩
  have hissues : issues file = [] := Except.ok.inj h
  rw [issues, scanLines_eq_count, hcount] at hissues
  obtain ⟨hstrays, hopen⟩ := List.append_eq_nil_iff.mp hissues
  obtain rfl : strays = [] := by simpa using hstrays
  obtain ⟨hlast, hnonneg⟩ := net_of_count hbrace hcount (Int.le_refl 0)
  have hzero : last = 0 := by
    have hle : ¬0 < last := by
      intro hpos
      simp [endIssues_scan, hpos] at hopen
    have := hnonneg _ (List.prefix_refl _)
    omega
  subst hzero
  refine Balanced.of_filter ?_
  rw [← hbraces]
  exact balanced_of_count hbrace hcount

/-- **The two readers agree.** In a stylesheet without quotes, whose comments are
all closed and whose code holds no address, the braces that the check counts are
the braces that the search for selectors meets. So where the check reports
nothing, the search never falls below depth zero and ends there, and the
stylesheet is a list of blocks, whose selectors are what the search collects. -/
theorem scanners_meet_same_braces (file : SourceFile) {code : List Char}
    (hquotes : ∀ c ∈ file.content.toList, isQuote c = false)
    (hclosed : Uncommented file.content.toList code)
    (hurls : ∀ t, t <:+ stripComments file.content.toList → startsUrl t = false) :
    let text := file.content.toList
    let counted := (trace [] .code text).1
    let met := clean text
    met = code ∧
    scanLines 1 {} (splitOn '\n' text) =
      ((count 0 counted).1.map (placeAt text), ⟨(count 0 counted).2.toNat, .code⟩) ∧
    preludes met = (met.foldl Collector.read {}).found ∧
    counted.map Prod.snd = met.filter isBrace ∧
    ((check file).result = .ok [] →
      (∀ p, p <+: met → 0 ≤ (p.foldl Collector.read {}).depth) ∧
      (met.foldl Collector.read {}).depth = 0 ∧
      ∃ (blocks : List Block) (tail : List Char),
        met = blocks.flatMap Block.text ++ tail ∧ (∀ b ∈ blocks, b.Sound) ∧ BraceFree tail ∧
        preludes met = blocks.map Block.selector) := by
  intro text counted met
  have hmet : met = code := by
    have hstrip := stripComments_uncommented hclosed
    rw [← hstrip]
    exact stripUrls_eq_self hurls
  obtain ⟨hbraces, hregion⟩ := trace_uncommented hclosed hquotes []
  refine ⟨hmet, ?_, ?_, by rw [hmet]; exact hbraces, fun hcheck => ?_⟩
  · rw [scanLines_eq_count, hregion]
    rfl
  · exact (foldl_read met {}).symm
  · have hbalanced : Balanced met := by
      rw [hmet]
      exact balanced_of_check hclosed hquotes hcheck
    refine ⟨fun p hp => ?_, ?_, ?_⟩
    · simpa [depth_foldl] using hbalanced.nonneg p hp
    · simpa [depth_foldl] using hbalanced.closed
    · obtain ⟨blocks, tail, htext, hsound, htail⟩ := exists_blocks met hbalanced
      refine ⟨blocks, tail, htext, hsound, htail, ?_⟩
      rw [htext]
      exact preludes_blocks hsound htail

/-- Comments whose ends run together, and a brace in one of them. -/
theorem scanners_meet_same_braces_commented :
    let file : SourceFile :=
      { path := "a.css", content := "/*/\x7d*/.a\x7bb\x7b\x7d\x7d/***/\nc\x7b\x7d" }
    let code := ".a\x7bb\x7b\x7d\x7d\nc\x7b\x7d".toList
    (∀ c ∈ file.content.toList, isQuote c = false) ∧
    Uncommented file.content.toList code ∧
    (∀ t, t <:+ stripComments file.content.toList → startsUrl t = false) ∧
    (check file).result = .ok [] ∧
    clean file.content.toList = code ∧
    (trace [] .code file.content.toList).1.map Prod.snd =
      (clean file.content.toList).filter isBrace ∧
    ((clean file.content.toList).foldl Collector.read {}).depth = 0 := by
  intro file code
  have hquotes : ∀ c ∈ file.content.toList, isQuote c = false := by
    have hall : file.content.toList.all (fun c => !isQuote c) = true := by decide +kernel
    simpa using hall
  have hclosed : Uncommented file.content.toList code := by
    have htext : file.content.toList =
        '/' :: '*' :: (['/', '}'] ++ '*' :: '/' :: '.' :: 'a' :: '{' :: 'b' :: '{' :: '}' :: '}' ::
          '/' :: '*' :: (['*'] ++ ['*', '/', '\n', 'c', '{', '}'])) := by
      decide +kernel
    have hcode : code = ['.', 'a', '{', 'b', '{', '}', '}', '\n', 'c', '{', '}'] := by
      decide +kernel
    rw [htext, hcode]
    refine .comment ['/', '}'] (by decide) ?_
    refine .code '.' (by decide) (.code 'a' (by decide) (.code '{' (by decide) ?_))
    refine .code 'b' (by decide) (.code '{' (by decide) (.code '}' (by decide) ?_))
    refine .code '}' (by decide) (.comment ['*'] (by decide) ?_)
    refine .code '\n' (by decide) (.code 'c' (by decide) (.code '{' (by decide) ?_))
    exact .code '}' (by decide) .nil
  have hurls : ∀ t, t <:+ stripComments file.content.toList → startsUrl t = false := by
    rw [stripComments_uncommented hclosed]
    have hall : (List.range (code.length + 1)).all (fun k => !startsUrl (code.drop k)) = true := by
      decide +kernel
    intro t ht
    rw [List.suffix_iff_eq_drop.mp ht]
    have hk : code.length - t.length ∈ List.range (code.length + 1) := by
      rw [List.mem_range]
      omega
    simpa using List.all_eq_true.mp hall _ hk
  have hcheck : (check file).result = .ok [] := by
    have hnone : issues file = [] := by decide +kernel
    exact congrArg Except.ok hnone
  obtain ⟨hmet, -, -, hbraces, hquiet⟩ := scanners_meet_same_braces file hquotes hclosed hurls
  exact ⟨hquotes, hclosed, hurls, hcheck, hmet, hbraces, (hquiet hcheck).2.1⟩

end SiteAudit.Stylesheet
