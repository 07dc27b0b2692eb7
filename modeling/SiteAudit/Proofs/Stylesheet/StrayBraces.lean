import SiteAudit.Proofs.Stylesheet.Seams

/-!
# A closing brace too many

The balance check reports a closing brace with nothing open and goes on at depth
zero. The search for selectors goes on below zero: what it takes for the top level
from there on is one level down, inside the blocks. `inside` is the text of the
blocks of a stylesheet, without their selectors and their own braces.

* `preludes_close`: behind a stray closing brace, the preludes are those of the
  text inside the blocks.
* `inside_blocks`: inside a list of blocks there are their bodies.
* `stray_close_reads_inside`: what a stylesheet with a stray brace in front
  defines, and when that is what it defines without it.
-/
namespace SiteAudit.Stylesheet

open Text Markup References

/-! ## One level down -/

/-- What stands above depth zero, from a depth on, without the braces at which the
text goes up from zero and comes down to it. -/
def insideFrom (depth : Int) : List Char → List Char
  | [] => []
  | c :: r =>
    if 0 < depth ∧ 0 < depth + net [c] then c :: insideFrom (depth + net [c]) r
    else insideFrom (depth + net [c]) r

/-- The text inside the blocks of a stylesheet. -/
def inside (s : List Char) : List Char := insideFrom 0 s

/-- One character changes the depth by its own sum, whatever is kept of it. -/
theorem preludesFrom_congr {depth : Int} {c : Char} {r t : List Char}
    (h : ∀ current, preludesFrom (depth + net [c]) current r =
      preludesFrom (depth + net [c]) current t) (current : List Char) :
    preludesFrom depth current (c :: r) = preludesFrom depth current (c :: t) := by
  by_cases ho : c = '{'
  · subst ho
    simp only [net_open, net_nil, Int.add_zero] at h
    by_cases hd : depth = 0
    · subst hd
      simpa [preludesFrom] using h []
    · simpa [preludesFrom, hd] using h current
  · by_cases hc : c = '}'
    · subst hc
      simpa [preludesFrom, Int.sub_eq_add_neg] using h current
    · simp only [net_other ho hc, net_nil, Int.add_zero] at h
      simp [preludesFrom, ho, hc, h]

theorem net_single {c : Char} (hc : c ≠ '}') : 0 ≤ net [c] ∧ net [c] ≤ 1 := by
  by_cases ho : c = '{'
  · subst ho
    decide
  · simp [net_other ho hc]

/-- **One level down.** What the search collects when it is one below the depth of
the text is what it collects from the text inside. -/
theorem preludesFrom_lower (s : List Char) (depth : Int) (current : List Char) :
    preludesFrom (depth - 1) current s =
      preludesFrom (max (depth - 1) 0) current (insideFrom depth s) := by
  induction s generalizing depth current with
  | nil => rfl
  | cons c r ih =>
    have hih := fun current => ih (depth + net [c]) current
    simp only [show depth + net [c] - 1 = depth - 1 + net [c] by omega] at hih
    by_cases hkept : 0 < depth ∧ 0 < depth + net [c]
    · -- inside a block both read the character, at the same depth
      rw [insideFrom, if_pos hkept, show max (depth - 1) 0 = depth - 1 by omega]
      rw [show max (depth - 1 + net [c]) 0 = depth - 1 + net [c] by omega] at hih
      exact preludesFrom_congr hih current
    · -- outside the search passes over it, and inside it is missing
      rw [insideFrom, if_neg hkept]
      have hstep : preludesFrom (depth - 1) current (c :: r) =
          preludesFrom (depth - 1 + net [c]) current r := by
        by_cases hc : c = '}'
        · subst hc
          simp [preludesFrom, Int.sub_eq_add_neg]
        · have := net_single hc
          exact preludesFrom_step (by omega) current c r
      have hlevel : max (depth - 1 + net [c]) 0 = max (depth - 1) 0 := by
        by_cases hc : c = '}'
        · subst hc
          simp only [net_close, net_nil] at hkept ⊢
          omega
        · have := net_single hc
          omega
      rw [hstep, hih, hlevel]

theorem preludes_close (s : List Char) : preludes ('}' :: s) = preludes (inside s) := by
  have hclose : preludes ('}' :: s) = preludesFrom (0 - 1) [] s := by simp [preludes, preludesFrom]
  rw [hclose, preludesFrom_lower]
  rfl

/-! ## Lists of blocks -/

/-- What holds of the depth all over a text holds before and behind its first
character. -/
theorem depths_cons (holds : Int → Prop) {depth : Int} {c : Char} {s : List Char}
    (h : ∀ p, p <+: c :: s → holds (depth + net p)) :
    holds depth ∧ ∀ p, p <+: s → holds (depth + net [c] + net p) := by
  refine ⟨by simpa using h [] List.nil_prefix, fun p hp => ?_⟩
  rw [Int.add_assoc, ← net_cons c p]
  exact h (c :: p) ((List.prefix_cons_inj c).mpr hp)

theorem insideFrom_below {s : List Char} {depth : Int} (h : ∀ p, p <+: s → depth + net p ≤ 0)
    (r : List Char) : insideFrom depth (s ++ r) = insideFrom (depth + net s) r := by
  induction s generalizing depth with
  | nil => simp
  | cons c s ih =>
    obtain ⟨hdepth, hmore⟩ := depths_cons (· ≤ 0) h
    rw [List.cons_append, insideFrom, if_neg (by omega), ih hmore, net_cons c s, Int.add_assoc]

theorem insideFrom_above {s : List Char} {depth : Int} (h : ∀ p, p <+: s → 0 < depth + net p)
    (r : List Char) : insideFrom depth (s ++ r) = s ++ insideFrom (depth + net s) r := by
  induction s generalizing depth with
  | nil => simp
  | cons c s ih =>
    obtain ⟨hdepth, hmore⟩ := depths_cons (0 < ·) h
    have hnext : 0 < depth + net [c] := by simpa using hmore [] List.nil_prefix
    rw [List.cons_append, insideFrom, if_pos ⟨hdepth, hnext⟩, ih hmore, net_cons c s,
      Int.add_assoc, List.cons_append]

theorem preludesFrom_below {s : List Char} {depth : Int} (h : ∀ p, p <+: s → depth + net p ≤ 0)
    (current : List Char) : preludesFrom depth current s = [] := by
  induction s generalizing depth current with
  | nil => rfl
  | cons c s ih =>
    obtain ⟨hdepth, hmore⟩ := depths_cons (· ≤ 0) h
    by_cases hzero : depth = 0
    · subst hzero
      have hopen : c ≠ '{' := by
        rintro rfl
        have hnext : 0 + net ['{'] ≤ 0 := by simpa using hmore [] List.nil_prefix
        exact absurd hnext (by decide)
      by_cases hc : c = '}'
      · subst hc
        simpa [preludesFrom] using ih hmore current
      · simp only [net_other hopen hc, net_nil, Int.add_zero] at hmore
        simpa [preludesFrom, hopen, hc] using ih hmore (c :: current)
    · rw [preludesFrom_step hzero]
      exact ih hmore current

theorem BraceFree.of_front {s p : List Char} (h : BraceFree s) (hp : p <+: s) : BraceFree p :=
  ⟨fun ho => h.1 (hp.subset ho), fun hc => h.2 (hp.subset hc)⟩

theorem preludes_free {s : List Char} (h : BraceFree s) : preludes s = [] :=
  preludesFrom_below (fun p hp => by simp [(h.of_front hp).net]) []

theorem inside_block {b : Block} (h : b.Sound) (r : List Char) :
    inside (b.text ++ r) = b.body ++ inside r := by
  have hselector : ∀ p, p <+: b.selector → 0 + net p ≤ 0 := fun p hp => by
    simp [(h.selector.of_front hp).net]
  have hbody : ∀ p, p <+: b.body → 0 < 1 + net p := fun p hp => by
    have := h.body.nonneg p hp
    omega
  calc inside (b.text ++ r)
      = insideFrom 0 (b.selector ++ '{' :: (b.body ++ '}' :: r)) := by simp [inside, Block.text]
    _ = insideFrom 1 (b.body ++ '}' :: r) := by
        rw [insideFrom_below hselector, h.selector.net]
        simp [insideFrom]
    _ = b.body ++ inside r := by
        rw [insideFrom_above hbody, h.body.closed]
        simp [insideFrom, inside]

/-- **Inside a list of blocks** there are their bodies. -/
theorem inside_blocks {blocks : List Block} (h : ∀ b ∈ blocks, b.Sound) {tail : List Char}
    (ht : BraceFree tail) :
    inside (blocks.flatMap Block.text ++ tail) = blocks.flatMap Block.body := by
  induction blocks with
  | nil =>
    have hbelow : ∀ p, p <+: tail → 0 + net p ≤ 0 := fun p hp => by simp [(ht.of_front hp).net]
    simpa [inside, insideFrom] using insideFrom_below hbelow []
  | cons b more ih =>
    obtain ⟨hb, hmore⟩ := List.forall_mem_cons.mp h
    rw [List.flatMap_cons, List.append_assoc, inside_block hb, ih hmore, List.flatMap_cons]

/-! ## What is defined -/

/-- The balance check reports the brace and goes on behind it as from the start. -/
theorem scanLines_close (text : List Char) :
    scanLines 1 {} (splitOn '\n' ('}' :: text)) =
      (⟨1, 0⟩ :: (resume 1 1 {} text).1, (resume 1 1 {} text).2) := by
  have hread : ∀ piece, piece <+: text → scanLine 1 0 {} (['}'] ++ piece) =
      ([⟨1, 0⟩] ++ (scanLine 1 1 {} piece).1, (scanLine 1 1 {} piece).2) := by
    intro piece _
    simp [scanLine, isQuote]
  rw [scanLines_eq_resume]
  exact resume_read (by simp) hread

/-- **A stray closing brace in front of a stylesheet.** With it, the stylesheet
defines the names in the selectors inside its blocks instead of those of the
blocks. So it makes no difference exactly if these are the same names. Inside a list
of blocks there are their bodies, one behind the other; so if no body holds a
brace, nothing is defined any more. If no block is opened at all, nothing is
defined with the brace and without it. The balance check reports the brace and
goes on one column further as from the start. -/
theorem stray_close_reads_inside (sheet : List Char) :
    (∀ kind name, defines (Definitions.addSheet {} ('}' :: sheet)) kind name = true ↔
      ∃ p ∈ preludes (inside (clean sheet)), Names kind p name) ∧
    (defines (Definitions.addSheet {} ('}' :: sheet)) = defines (Definitions.addSheet {} sheet) ↔
      ∀ kind name, (∃ p ∈ preludes (inside (clean sheet)), Names kind p name) ↔
        ∃ p ∈ preludes (clean sheet), Names kind p name) ∧
    (∀ (blocks : List Block) (tail : List Char), clean sheet = blocks.flatMap Block.text ++ tail →
      (∀ b ∈ blocks, b.Sound) → BraceFree tail →
      inside (clean sheet) = blocks.flatMap Block.body ∧
      ((∀ b ∈ blocks, BraceFree b.body) →
        ∀ kind name, defines (Definitions.addSheet {} ('}' :: sheet)) kind name = false)) ∧
    ((∀ p, p <+: clean sheet → net p ≤ 0) →
      defines (Definitions.addSheet {} ('}' :: sheet)) =
        defines (Definitions.addSheet {} sheet)) ∧
    scanLines 1 {} (splitOn '\n' ('}' :: sheet)) =
      (⟨1, 0⟩ :: (resume 1 1 {} sheet).1, (resume 1 1 {} sheet).2) := by
  have hplain : ∀ kind name, defines (Definitions.addSheet {} sheet) kind name = true ↔
      ∃ p ∈ preludes (clean sheet), Names kind p name := by
    intro kind name
    rw [defines_addSheet]
    simp [defines_empty]
  have hstray : ∀ kind name, defines (Definitions.addSheet {} ('}' :: sheet)) kind name = true ↔
      ∃ p ∈ preludes (inside (clean sheet)), Names kind p name := by
    intro kind name
    rw [defines_addSheet, clean_cons (by decide), preludes_close]
    simp [defines_empty]
  have hagree : defines (Definitions.addSheet {} ('}' :: sheet)) =
        defines (Definitions.addSheet {} sheet) ↔
      ∀ kind name, (∃ p ∈ preludes (inside (clean sheet)), Names kind p name) ↔
        ∃ p ∈ preludes (clean sheet), Names kind p name := by
    simp only [funext_iff, Bool.eq_iff_iff, hstray, hplain]
  refine ⟨hstray, hagree, fun blocks tail hsheet hblocks htail => ?_, fun hbelow => ?_,
    scanLines_close sheet⟩
  · have hinside : inside (clean sheet) = blocks.flatMap Block.body := by
      rw [hsheet, inside_blocks hblocks htail]
    refine ⟨hinside, fun hbodies kind name => ?_⟩
    have hfree : BraceFree (blocks.flatMap Block.body) := by
      constructor <;> intro hmem <;> obtain ⟨b, hb, hmem⟩ := List.mem_flatMap.mp hmem
      · exact (hbodies b hb).1 hmem
      · exact (hbodies b hb).2 hmem
    rw [Bool.eq_false_iff, ne_eq, hstray, hinside, preludes_free hfree]
    simp
  · have hsums : ∀ p, p <+: clean sheet → 0 + net p ≤ 0 := by simpa using hbelow
    have hinside : inside (clean sheet) = [] := by
      simpa [inside, insideFrom] using insideFrom_below hsums []
    rw [hagree, hinside, preludes, preludes, preludesFrom_below hsums]
    exact fun kind name => Iff.rfl

-- the selector of the outer block is lost, and that of the block inside it is taken
example : Definitions.addSheet {} "\x7d@media\x7b.a\x7b\x7d\x7d.b\x7b\x7d".toList =
    { classes := ["a"] } := by decide +kernel

/-- One brace too many in front of a rule hides what it defines. -/
theorem stray_close_hides_rule :
    let sheet := ".a\x7b\x7d".toList
    defines (Definitions.addSheet {} sheet) .cls "a" = true ∧
    defines (Definitions.addSheet {} ('}' :: sheet)) .cls "a" = false := by
  decide +kernel

end SiteAudit.Stylesheet
