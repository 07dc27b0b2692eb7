import SiteAudit.Proofs.Stylesheet.Braces
import SiteAudit.Stylesheet.Selectors

/-!
# Stylesheets as lists of blocks

A stylesheet whose braces are balanced is a list of blocks with text before,
between and behind them: `s₁{b₁}s₂{b₂}…sₙ{bₙ}t`, with balanced bodies `bᵢ` and
no brace in the selectors `sᵢ` and in the tail `t`.

* `foldl_read`, `depth_foldl`: `preludes` as a loop over single characters,
  whose depth is the sum of the braces read.
* `preludes_blocks`: the preludes of such a list are its selectors.
* `exists_blocks`: every balanced text is such a list.
-/
namespace SiteAudit.Stylesheet

/-! ## The loop -/

/-- What the loop keeps between two characters: the depth, the text read at
depth zero since the last block, and the texts found before blocks. -/
structure Collector where
  depth : Int := 0
  current : List Char := []
  found : List (List Char) := []
  deriving DecidableEq, Repr

def Collector.read (k : Collector) (c : Char) : Collector :=
  if c = '{' then
    if k.depth = 0 then { depth := 1, current := [], found := k.found ++ [k.current] }
    else { k with depth := k.depth + 1 }
  else if c = '}' then { k with depth := k.depth - 1 }
  else if k.depth = 0 then { k with current := k.current ++ [c] }
  else k

/-- The loop collects the preludes. -/
theorem foldl_read (s : List Char) (k : Collector) :
    (s.foldl Collector.read k).found =
      k.found ++ preludesFrom k.depth k.current.reverse s := by
  induction s generalizing k with
  | nil => simp [preludesFrom]
  | cons c r ih =>
    rw [List.foldl_cons, ih, Collector.read, preludesFrom]
    split
    · split <;> simp
    · split
      · rfl
      · split <;> simp

theorem depth_foldl (s : List Char) (k : Collector) :
    (s.foldl Collector.read k).depth = k.depth + net s := by
  induction s generalizing k with
  | nil => simp
  | cons c r ih =>
    rw [List.foldl_cons, ih, Collector.read]
    by_cases ho : c = '{'
    · subst ho
      by_cases hd : k.depth = 0
      · simp [hd]
      · simp [hd]
        omega
    · by_cases hc : c = '}'
      · subst hc
        simp
        omega
      · by_cases hd : k.depth = 0 <;> simp [ho, hc, hd, net_other ho hc]

/-! ## Blocks -/

/-- A block and the text before it. -/
structure Block where
  selector : List Char
  body : List Char
  deriving DecidableEq, Repr

def Block.text (b : Block) : List Char := b.selector ++ '{' :: (b.body ++ ['}'])

/-- A text without braces. -/
def BraceFree (s : List Char) : Prop := '{' ∉ s ∧ '}' ∉ s

structure Block.Sound (b : Block) : Prop where
  selector : BraceFree b.selector
  body : Balanced b.body

instance (s : List Char) : Decidable (BraceFree s) := inferInstanceAs (Decidable (_ ∧ _))

instance (b : Block) : Decidable b.Sound :=
  decidable_of_iff (BraceFree b.selector ∧ Balanced b.body)
    ⟨fun h => ⟨h.1, h.2⟩, fun h => ⟨h.selector, h.body⟩⟩

theorem BraceFree.tail {c : Char} {s : List Char} (h : BraceFree (c :: s)) :
    c ≠ '{' ∧ c ≠ '}' ∧ BraceFree s := by
  obtain ⟨ho, hc⟩ := h
  simp only [List.mem_cons, not_or] at ho hc
  exact ⟨Ne.symm ho.1, Ne.symm hc.1, ho.2, hc.2⟩

theorem BraceFree.net {s : List Char} (h : BraceFree s) : net s = 0 := by
  simp [Stylesheet.net, List.count_eq_zero.mpr h.1, List.count_eq_zero.mpr h.2]

theorem preludesFrom_free {s : List Char} (h : BraceFree s) (current r : List Char) :
    preludesFrom 0 current (s ++ r) = preludesFrom 0 (s.reverse ++ current) r := by
  induction s generalizing current with
  | nil => rfl
  | cons c s ih =>
    obtain ⟨ho, hc, hs⟩ := h.tail
    simp [preludesFrom, ho, hc, ih hs]

theorem preludesFrom_step {depth : Int} (h : depth ≠ 0) (current : List Char) (c : Char)
    (r : List Char) :
    preludesFrom depth current (c :: r) = preludesFrom (depth + net [c]) current r := by
  by_cases ho : c = '{'
  · subst ho
    simp [preludesFrom, h]
  · by_cases hc : c = '}'
    · subst hc
      simp [preludesFrom, Int.sub_eq_add_neg]
    · simp [preludesFrom, ho, hc, h, net_other ho hc]

theorem preludesFrom_inside (body : List Char) {depth : Int}
    (h : ∀ p, p <+: body → 0 < depth + net p) (current r : List Char) :
    preludesFrom depth current (body ++ r) = preludesFrom (depth + net body) current r := by
  induction body generalizing depth with
  | nil => simp
  | cons c body ih =>
    have hdepth : depth ≠ 0 := by
      have := h [] List.nil_prefix
      simp only [net_nil] at this
      omega
    rw [List.cons_append, preludesFrom_step hdepth, net_cons c body, ← Int.add_assoc]
    refine ih fun p hp => ?_
    rw [Int.add_assoc, ← net_cons c p]
    exact h (c :: p) ((List.prefix_cons_inj c).mpr hp)

theorem preludes_block {b : Block} (h : b.Sound) (r : List Char) :
    preludes (b.text ++ r) = b.selector :: preludes r := by
  have hinside : ∀ p, p <+: b.body → 0 < 1 + net p := by
    intro p hp
    have := h.body.nonneg p hp
    omega
  have hopen : preludesFrom 0 b.selector.reverse ('{' :: (b.body ++ '}' :: r)) =
      b.selector :: preludesFrom 1 [] (b.body ++ '}' :: r) := by
    simp [preludesFrom]
  have hclose : preludesFrom 1 [] ('}' :: r) = preludes r := by
    rw [preludesFrom_step (by decide)]
    rfl
  calc preludes (b.text ++ r)
      = preludesFrom 0 [] (b.selector ++ '{' :: (b.body ++ '}' :: r)) := by
        simp [preludes, Block.text]
    _ = b.selector :: preludesFrom 1 [] (b.body ++ '}' :: r) := by
        rw [preludesFrom_free h.selector, List.append_nil, hopen]
    _ = b.selector :: preludes r := by
        rw [preludesFrom_inside b.body hinside, h.body.closed, Int.add_zero, hclose]

/-- **Blocks.** The preludes of a list of blocks are the selectors. -/
theorem preludes_blocks {blocks : List Block} (h : ∀ b ∈ blocks, b.Sound) {tail : List Char}
    (ht : BraceFree tail) :
    preludes (blocks.flatMap Block.text ++ tail) = blocks.map Block.selector := by
  induction blocks with
  | nil =>
    have hfree := preludesFrom_free ht [] []
    simpa [preludes, preludesFrom] using hfree
  | cons b more ih =>
    rw [List.flatMap_cons, List.append_assoc, preludes_block (h b (List.mem_cons_self ..)),
      ih fun b hb => h b (List.mem_cons_of_mem _ hb), List.map_cons]

/-! ## Every balanced text -/

/-- From depth `depth`, the first brace that closes one more than is open. -/
theorem exists_first_close (s : List Char) {depth : Int} (hd : 0 ≤ depth)
    (h : depth + net s < 0) :
    ∃ body rest, s = body ++ '}' :: rest ∧ (∀ p, p <+: body → 0 ≤ depth + net p) ∧
      depth + net body = 0 := by
  induction s generalizing depth with
  | nil =>
    simp only [net_nil] at h
    omega
  | cons c r ih =>
    by_cases hend : depth + net [c] < 0
    · -- only a closing brace at depth zero goes below zero
      obtain rfl : c = '}' := by
        refine Decidable.byContradiction fun hc => ?_
        have : 0 ≤ net [c] := by
          by_cases ho : c = '{'
          · subst ho
            decide
          · simp [net_other ho hc]
        omega
      simp only [net_close, net_nil] at hend
      refine ⟨[], r, rfl, fun p hp => ?_, by simp only [net_nil]; omega⟩
      rw [List.prefix_nil.mp hp]
      simpa using hd
    · have hnext : depth + net [c] + net r < 0 := by
        rw [Int.add_assoc, ← net_cons c r]
        exact h
      obtain ⟨body, rest, rfl, hnonneg, hzero⟩ := ih (Int.not_lt.mp hend) hnext
      refine ⟨c :: body, rest, rfl, fun p hp => ?_, by rw [net_cons c body]; omega⟩
      rcases List.prefix_cons_iff.mp hp with rfl | ⟨t, rfl, ht⟩
      · simpa using hd
      · have := hnonneg t ht
        rw [net_cons c t]
        omega

theorem braceFree_of_nonneg {s : List Char} (ho : '{' ∉ s) (h : ∀ p, p <+: s → 0 ≤ net p) :
    BraceFree s := by
  refine ⟨ho, fun hc => ?_⟩
  have hall := h s (List.prefix_refl s)
  have hopen : s.count '{' = 0 := List.count_eq_zero.mpr ho
  have hclose : 0 < s.count '}' := List.count_pos_iff.mpr hc
  simp only [net, hopen] at hall
  omega

/-- **Every balanced text is a list of blocks.** The induction is on the length:
the first block ends at the first brace that closes what its own opened. -/
theorem exists_blocks (s : List Char) (h : Balanced s) :
    ∃ (blocks : List Block) (tail : List Char),
      s = blocks.flatMap Block.text ++ tail ∧ (∀ b ∈ blocks, b.Sound) ∧ BraceFree tail := by
  by_cases ho : '{' ∈ s
  · obtain ⟨selector, r, hs, hsel⟩ := List.eq_append_cons_of_mem ho
    have hfree : BraceFree selector := braceFree_of_nonneg hsel fun p hp =>
      h.nonneg p (hp.trans (by rw [hs]; exact List.prefix_append ..))
    have hr : net r < 0 := by
      have hclosed := h.closed
      rw [hs, net_append, net_open, hfree.net] at hclosed
      omega
    obtain ⟨body, rest, rfl, hnonneg, hzero⟩ := exists_first_close r (Int.le_refl 0) (by omega)
    have hbody : Balanced body := ⟨fun p hp => by simpa using hnonneg p hp, by omega⟩
    have hblock : s = Block.text ⟨selector, body⟩ ++ rest := by
      rw [hs]
      simp [Block.text]
    have hnet : net (Block.text ⟨selector, body⟩) = 0 := by
      simp [Block.text, hfree.net, hbody.closed]
    have hrest : Balanced rest := by
      refine ⟨fun p hp => ?_, ?_⟩
      · have := h.nonneg (Block.text ⟨selector, body⟩ ++ p)
          (by rw [hblock]; exact (List.prefix_append_right_inj _).mpr hp)
        rw [net_append, hnet] at this
        omega
      · have := h.closed
        rw [hblock, net_append, hnet] at this
        omega
    have hshorter : rest.length < s.length := by
      rw [hs]
      simp only [List.length_append, List.length_cons]
      omega
    obtain ⟨blocks, tail, htext, hsound, htail⟩ := exists_blocks rest hrest
    refine ⟨⟨selector, body⟩ :: blocks, tail, ?_, ?_, htail⟩
    · rw [hblock, htext, List.flatMap_cons, List.append_assoc]
    · intro b hb
      rcases List.mem_cons.mp hb with rfl | hb
      · exact ⟨hfree, hbody⟩
      · exact hsound b hb
  · exact ⟨[], s, by simp, by simp, braceFree_of_nonneg ho h.nonneg⟩
termination_by s.length

end SiteAudit.Stylesheet
