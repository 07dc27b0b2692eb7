import SiteAudit.Proofs.Stylesheet.WholeText

/-!
# The braces that the balance check counts

The pass over a stylesheet does two things at once: it tells code from comments
and strings, and it counts the braces of the code. Here the two are taken
apart. `trace` lists the braces of the code with their offsets, and `count`
counts them with no text in sight.

* `pass_eq_count`: the pass finds what the count of the traced braces finds.
* `scanLines_eq_count`: so does the scan of lines.
* `count_counted`: how many strays a count meets, and how far up it ends, by the
  sums of the beginnings of a text.
* `balanced_of_count`: braces that are counted without a stray, and down to zero,
  are balanced.
-/
namespace SiteAudit.Stylesheet

open Text

/-- The braces in the code of a text, which `before` precedes, each with its
offset; and what the end of the text belongs to. -/
def trace (before : List Char) : Region → List Char → List (Nat × Char) × Region
  | region, [] => ([], region)
  | .code, '/' :: '*' :: r => trace ('*' :: '/' :: before) .comment r
  | .comment, '*' :: '/' :: r => trace ('/' :: '*' :: before) .code r
  | .comment, c :: r => trace (c :: before) .comment r
  | .string q, c :: r =>
    if c = q ∧ before.head? ≠ some '\\' then trace (c :: before) .code r
    else trace (c :: before) (.string q) r
  | .code, c :: r =>
    if c = '"' ∨ c = '\'' then trace (c :: before) (.string c) r
    else if c = '{' ∨ c = '}' then
      let (found, region) := trace (c :: before) .code r
      ((before.length, c) :: found, region)
    else trace (c :: before) .code r

/-- Counts braces from a depth on: the offsets of the closing braces with nothing
open, after each of which the depth is zero, and the depth at the end. -/
def count (depth : Int) : List (Nat × Char) → List Nat × Int
  | [] => ([], depth)
  | (k, c) :: more =>
    if c = '{' then count (depth + 1) more
    else if depth - 1 < 0 then
      let (found, last) := count 0 more
      (k :: found, last)
    else count (depth - 1) more

/-- **The pass counts the traced braces**, and no others. -/
theorem pass_eq_count (before : List Char) (p : Pass) (text : List Char) :
    pass before p text =
      ((count p.depth (trace before p.region text).1).1,
        ⟨(count p.depth (trace before p.region text).1).2, (trace before p.region text).2⟩) := by
  fun_induction pass before p text with
  | case1 before p => simp [trace, count]
  | case2 before depth r ih => simpa [trace] using ih
  | case3 before depth r ih => simpa [trace] using ih
  | case4 before depth c r hend ih => simpa [trace.eq_4 before c r hend] using ih
  | case5 before depth q c r hclose ih => simpa [trace, hclose] using ih
  | case6 before depth q c r hclose ih => simpa [trace, hclose] using ih
  | case7 before depth c r hopen hquote ih =>
    simpa [trace.eq_6 before c r hopen, hquote] using ih
  | case8 before depth r _ _ ih => simpa [trace, count] using ih
  | case9 before depth r hneg found p _ _ _ hrun ih =>
    rw [hrun] at ih
    obtain ⟨rfl, rfl⟩ := Prod.mk.inj ih
    simp [trace, count, hneg]
  | case10 before depth r hneg _ _ _ ih => simpa [trace, count, hneg] using ih
  | case11 before depth c r hopen hquote ho hc ih =>
    simpa [trace.eq_6 before c r hopen, hquote, ho, hc] using ih

/-- The scan of lines counts the traced braces too. -/
theorem scanLines_eq_count (text : List Char) :
    scanLines 1 {} (splitOn '\n' text) =
      ((count 0 (trace [] .code text).1).1.map (placeAt text),
        Pass.scan [] ⟨(count 0 (trace [] .code text).1).2, (trace [] .code text).2⟩) := by
  rw [scanLines_eq_resume]
  refine (resumeAt_eq_pass [] {} text ⟨Int.le_refl 0, by simp⟩).trans ?_
  rw [pass_eq_count]
  rfl

/-! ## Balance -/

def isBrace (c : Char) : Bool := c == '{' || c == '}'

theorem isBrace_of_mem_trace {before text : List Char} {region : Region} {b : Nat × Char}
    (h : b ∈ (trace before region text).1) : isBrace b.2 = true := by
  fun_induction trace before region text with
  | case1 => simp at h
  | case2 before r ih => exact ih h
  | case3 before r ih => exact ih h
  | case4 before c r _ ih => exact ih h
  | case5 before q c r _ ih => exact ih h
  | case6 before q c r _ ih => exact ih h
  | case7 before c r _ _ ih => exact ih h
  | case8 before c r _ _ hbrace found region hrun ih =>
    rcases List.mem_cons.mp h with rfl | h
    · simpa [isBrace] using hbrace
    · exact ih (by rwa [hrun])
  | case9 before c r _ _ _ ih => exact ih h

/-- How many more braces open than close. -/
def net (s : List Char) : Int := s.count '{' - s.count '}'

@[simp] theorem net_nil : net [] = 0 := rfl

@[simp] theorem net_open (s : List Char) : net ('{' :: s) = 1 + net s := by
  simp [net]
  omega

@[simp] theorem net_close (s : List Char) : net ('}' :: s) = net s - 1 := by
  simp [net]
  omega

theorem net_other {c : Char} (ho : c ≠ '{') (hc : c ≠ '}') (s : List Char) :
    net (c :: s) = net s := by
  simp [net, ho, hc]

@[simp] theorem net_append (a b : List Char) : net (a ++ b) = net a + net b := by
  simp [net]
  omega

theorem net_cons (c : Char) (s : List Char) : net (c :: s) = net [c] + net s := net_append [c] s

theorem net_filter (s : List Char) : net (s.filter isBrace) = net s := by
  simp [net, isBrace]

/-- Every brace that closes was opened before, and every one that opens is
closed. -/
structure Balanced (s : List Char) : Prop where
  nonneg : ∀ p, p <+: s → 0 ≤ net p
  closed : net s = 0

theorem balanced_iff_take {s : List Char} :
    (∀ k ∈ List.range (s.length + 1), 0 ≤ net (s.take k)) ∧ net s = 0 ↔ Balanced s := by
  refine ⟨fun h => ⟨fun p hp => ?_, h.2⟩, fun h => ⟨fun k _ => ?_, h.closed⟩⟩
  · rw [List.prefix_iff_eq_take.mp hp]
    exact h.1 p.length (List.mem_range.mpr (Nat.lt_succ_of_le hp.length_le))
  · exact h.nonneg _ (List.take_prefix k s)

instance (s : List Char) : Decidable (Balanced s) := decidable_of_iff _ balanced_iff_take

theorem Balanced.of_filter {s : List Char} (h : Balanced (s.filter isBrace)) : Balanced s where
  nonneg p hp := by
    rw [← net_filter]
    exact h.nonneg _ (hp.filter isBrace)
  closed := by rw [← net_filter, h.closed]

/-- What a count from a depth on makes of a text, `strays` of whose braces close
with nothing open: if as many more had been open from the start, the sum of the
braces would never fall below zero. -/
structure Counted (depth : Int) (s : List Char) (strays : Nat) (last : Int) : Prop where
  nonneg : ∀ p, p <+: s → 0 ≤ depth + strays + net p
  /-- One brace less would be too few. -/
  least : strays = 0 ∨ ∃ p, p <+: s ∧ depth + strays + net p = 0
  last : last = depth + strays + net s

theorem Counted.cons {depth last : Int} {c : Char} {s : List Char} {strays : Nat}
    (h : Counted (depth + net [c]) s strays last) (hd : 0 ≤ depth) :
    Counted depth (c :: s) strays last where
  nonneg p hp := by
    rcases List.prefix_cons_iff.mp hp with rfl | ⟨t, rfl, ht⟩
    · simp only [net_nil]
      omega
    · have := h.nonneg t ht
      rw [net_cons]
      omega
  least := by
    refine h.least.imp_right fun ⟨p, hp, hzero⟩ => ?_
    refine ⟨c :: p, (List.prefix_cons_inj c).mpr hp, ?_⟩
    rw [net_cons]
    omega
  last := by
    have := h.last
    rw [net_cons]
    omega

/-- A stray, after which the count is at zero again. -/
theorem Counted.stray {last : Int} {s : List Char} {strays : Nat} (h : Counted 0 s strays last) :
    Counted 0 ('}' :: s) (strays + 1) last where
  nonneg p hp := by
    rcases List.prefix_cons_iff.mp hp with rfl | ⟨t, rfl, ht⟩
    · simp only [net_nil]
      omega
    · have := h.nonneg t ht
      simp only [net_close]
      omega
  least := by
    obtain ⟨p, hp, hzero⟩ : ∃ p, p <+: s ∧ strays + net p = 0 := by
      rcases h.least with rfl | ⟨p, hp, hzero⟩
      · exact ⟨[], List.nil_prefix, rfl⟩
      · exact ⟨p, hp, by omega⟩
    refine Or.inr ⟨'}' :: p, (List.prefix_cons_inj _).mpr hp, ?_⟩
    simp only [net_close]
    omega
  last := by
    have := h.last
    simp only [net_close]
    omega

/-- **The law of the count.** -/
theorem count_counted {depth : Int} {bs : List (Nat × Char)}
    (hbrace : ∀ b ∈ bs, isBrace b.2 = true) (hd : 0 ≤ depth) :
    Counted depth (bs.map Prod.snd) (count depth bs).1.length (count depth bs).2 := by
  induction bs generalizing depth with
  | nil =>
    refine ⟨fun p hp => ?_, Or.inl rfl, by simp [count]⟩
    rw [List.prefix_nil.mp hp]
    simpa [count] using hd
  | cons b more ih =>
    obtain ⟨k, c⟩ := b
    have hmore : ∀ b ∈ more, isBrace b.2 = true := fun b hb =>
      hbrace b (List.mem_cons_of_mem _ hb)
    have hc : c = '{' ∨ c = '}' := by simpa [isBrace] using hbrace (k, c) (List.mem_cons_self ..)
    rcases hc with rfl | rfl
    · have hopen : 0 ≤ depth + net ['{'] := by
        simp only [net_open, net_nil]
        omega
      simpa [count] using (ih hmore hopen).cons hd
    · by_cases hneg : depth - 1 < 0
      · obtain rfl : depth = 0 := by omega
        simpa [count] using (ih hmore (Int.le_refl 0)).stray
      · have hclose : 0 ≤ depth + net ['}'] := by
          simp only [net_close, net_nil]
          omega
        have hdepth : depth + net ['}'] = depth - 1 := by
          simp only [net_close, net_nil]
          omega
        have hcons := (ih hmore hclose).cons hd
        rw [hdepth] at hcons
        simpa [count, hneg] using hcons

/-- A count without strays is the sum of the braces, and never falls below zero
on the way. -/
theorem net_of_count {depth last : Int} {bs : List (Nat × Char)}
    (hbrace : ∀ b ∈ bs, isBrace b.2 = true) (h : count depth bs = ([], last)) (hd : 0 ≤ depth) :
    last = depth + net (bs.map Prod.snd) ∧
      ∀ p, p <+: bs.map Prod.snd → 0 ≤ depth + net p := by
  have hcounted := count_counted hbrace hd
  rw [h] at hcounted
  exact ⟨by simpa using hcounted.last, fun p hp => by simpa using hcounted.nonneg p hp⟩

theorem balanced_of_count {bs : List (Nat × Char)} (hbrace : ∀ b ∈ bs, isBrace b.2 = true)
    (h : count 0 bs = ([], 0)) : Balanced (bs.map Prod.snd) := by
  obtain ⟨hlast, hnonneg⟩ := net_of_count hbrace h (Int.le_refl 0)
  exact ⟨fun p hp => by simpa using hnonneg p hp, by omega⟩

end SiteAudit.Stylesheet
