import Mathlib.Order.Bounds.Basic
import SiteAudit.Proofs.Stylesheet.Blocks

/-!
# What the numbers in a stylesheet's report mean

The balance check reports every closing brace with nothing open and goes on at
depth zero; at the end it reports how many braces are still open. Both numbers
are properties of the braces alone, in the order in which they stand in the code:
the first is the most by which the closing braces of a beginning outnumber its
opening ones, and the second is what the whole is short of closing braces once
the strays are set aside.

* `matched_iff_balanced`: the words that pairs of braces make up are those whose
  sums are right.
* `strays_isGreatest`: the count meets the fewest strays that it can.
* `count_clean_iff`: it finds nothing in matched words, and only in these.
* `report_counts_braces`: the report of a stylesheet, from its braces.
-/
namespace SiteAudit.Stylesheet

open Text

/-! ## Matched braces -/

/-- The words that are made up of pairs of braces. -/
inductive Matched : List Char → Prop
  | nil : Matched []
  | pair {body rest : List Char} : Matched body → Matched rest →
      Matched ('{' :: (body ++ '}' :: rest))

theorem Balanced.append {a b : List Char} (ha : Balanced a) (hb : Balanced b) :
    Balanced (a ++ b) := by
  refine ⟨fun p hp => ?_, by simp [ha.closed, hb.closed]⟩
  rcases List.prefix_or_prefix_of_prefix hp (List.prefix_append a b) with hpa | ⟨t, rfl⟩
  · exact ha.nonneg p hpa
  · have := hb.nonneg t ((List.prefix_append_right_inj a).mp hp)
    rw [net_append, ha.closed]
    omega

theorem Balanced.enclosed {body : List Char} (h : Balanced body) :
    Balanced ('{' :: (body ++ ['}'])) := by
  refine ⟨fun p hp => ?_, by simp [h.closed]⟩
  rcases List.prefix_cons_iff.mp hp with rfl | ⟨t, rfl, ht⟩
  · exact Int.le_refl 0
  · rcases List.prefix_concat_iff.mp ht with rfl | ht
    · simp [h.closed]
    · have := h.nonneg t ht
      simp only [net_open]
      omega

theorem Matched.balanced {s : List Char} (h : Matched s) : Balanced s := by
  induction h with
  | nil => exact ⟨fun p hp => by simp [List.prefix_nil.mp hp], rfl⟩
  | pair _ _ hbody hrest => simpa using hbody.enclosed.append hrest

theorem matched_blocks {blocks : List Block}
    (h : ∀ b ∈ blocks, b.selector = [] ∧ Matched b.body) : Matched (blocks.flatMap Block.text) := by
  induction blocks with
  | nil => exact .nil
  | cons b more ih =>
    obtain ⟨⟨hselector, hbody⟩, hmore⟩ := List.forall_mem_cons.mp h
    simpa [Block.text, hselector] using Matched.pair hbody (ih hmore)

theorem BraceFree.eq_nil {s : List Char} (h : BraceFree s) (hbrace : ∀ c ∈ s, isBrace c = true) :
    s = [] := by
  refine List.eq_nil_iff_forall_not_mem.mpr fun c hc => ?_
  have : c = '{' ∨ c = '}' := by simpa [isBrace] using hbrace c hc
  rcases this with rfl | rfl
  · exact h.1 hc
  · exact h.2 hc

/-- A balanced word is a list of blocks, and the bodies of these are shorter. -/
theorem Balanced.matched {s : List Char} (h : Balanced s) (hbrace : ∀ c ∈ s, isBrace c = true) :
    Matched s := by
  obtain ⟨blocks, tail, hs, hsound, htail⟩ := exists_blocks s h
  obtain rfl : tail = [] := htail.eq_nil fun c hc => hbrace c (by simp [hs, hc])
  rw [List.append_nil] at hs
  rw [hs]
  refine matched_blocks fun b hb => ?_
  have htext : ∀ c ∈ b.text, c ∈ s := fun c hc => by
    rw [hs]
    exact List.mem_flatMap.mpr ⟨b, hb, hc⟩
  have hshorter : b.body.length < s.length := by
    have := (List.sublist_flatten_of_mem (List.mem_map_of_mem (f := Block.text) hb)).length_le
    rw [hs, List.flatMap_def]
    simp only [Block.text, List.length_append, List.length_cons] at this ⊢
    omega
  exact ⟨(hsound b hb).selector.eq_nil fun c hc => hbrace c (htext c (by simp [Block.text, hc])),
    Balanced.matched (hsound b hb).body fun c hc => hbrace c (htext c (by simp [Block.text, hc]))⟩
termination_by s.length

/-- **Words of braces** are made up of pairs exactly if their sums are right. -/
theorem matched_iff_balanced {s : List Char} (hbrace : ∀ c ∈ s, isBrace c = true) :
    Matched s ↔ Balanced s :=
  ⟨Matched.balanced, fun h => h.matched hbrace⟩

/-! ## The numbers of a count -/

/-- The strays of a count from zero on: the most by which the closing braces of a
beginning outnumber its opening ones. -/
theorem strays_isGreatest {bs : List (Nat × Char)} (hbrace : ∀ b ∈ bs, isBrace b.2 = true) :
    IsGreatest {d : Int | ∃ p, p <+: bs.map Prod.snd ∧ d = p.count '}' - p.count '{'}
      (count 0 bs).1.length := by
  obtain ⟨hnonneg, hleast, -⟩ := count_counted hbrace (Int.le_refl 0)
  constructor
  · rcases hleast with hzero | ⟨p, hp, hzero⟩
    · exact ⟨[], List.nil_prefix, by simp [hzero]⟩
    · refine ⟨p, hp, ?_⟩
      simp only [net] at hzero
      omega
  · rintro d ⟨p, hp, rfl⟩
    have := hnonneg p hp
    simp only [net] at this
    omega

/-- The count finds no stray and ends at zero exactly on the matched words. -/
theorem count_clean_iff {bs : List (Nat × Char)} (hbrace : ∀ b ∈ bs, isBrace b.2 = true) :
    count 0 bs = ([], 0) ↔ Matched (bs.map Prod.snd) := by
  have hword : ∀ c ∈ bs.map Prod.snd, isBrace c = true := by
    intro c hc
    obtain ⟨b, hb, rfl⟩ := List.mem_map.mp hc
    exact hbrace b hb
  rw [matched_iff_balanced hword]
  refine ⟨balanced_of_count hbrace, fun h => ?_⟩
  obtain ⟨-, hleast, hlast⟩ := count_counted hbrace (Int.le_refl 0)
  have hstrays : (count 0 bs).1.length = 0 := by
    rcases hleast with hzero | ⟨p, hp, hzero⟩
    · exact hzero
    · have := h.nonneg p hp
      omega
  have hclosed := h.closed
  exact Prod.ext (List.eq_nil_of_length_eq_zero hstrays) (by simp only; omega)

/-! ## The report -/

theorem issues_eq_count (file : SourceFile) :
    let text := file.content.toList
    let counted := count 0 (trace [] .code text).1
    issues file =
      (counted.1.map (placeAt text)).map (fun p =>
        issueAt file Rule.braceUnexpected "Unexpected closing brace" p.line p.column) ++
      endIssues file (splitOn '\n' text).length
        (Pass.scan [] ⟨counted.2, (trace [] .code text).2⟩) := by
  intro text counted
  rw [issues, scanLines_eq_count]

theorem countP_unexpected (file : SourceFile) (places : List Place) (lines : Nat) (p : Pass) :
    (places.map (fun p => issueAt file Rule.braceUnexpected "Unexpected closing brace" p.line
        p.column) ++ endIssues file lines (p.scan [])).countP
      (·.rule == "unbalanced-brace-unexpected") = places.length := by
  rw [endIssues_scan]
  cases p.region <;> by_cases hpos : 0 < p.depth <;>
    simp [hpos, issueAt, Rule.braceUnexpected, Rule.braceUnclosed, Rule.commentUnclosed,
      Rule.stringUnclosed, Function.comp_def]

theorem filter_unclosed (file : SourceFile) (places : List Place) (lines : Nat) (p : Pass) :
    ((places.map (fun p => issueAt file Rule.braceUnexpected "Unexpected closing brace" p.line
        p.column) ++ endIssues file lines (p.scan [])).filter
      (·.rule == "unbalanced-brace-unclosed")).map (·.message) =
      (if 0 < p.depth then
        ["Unclosed brace: " ++ toString p.depth ++ " opening brace(s) without matching close"]
      else []) := by
  rw [endIssues_scan]
  cases p.region <;> by_cases hpos : 0 < p.depth <;>
    simp [hpos, issueAt, Rule.braceUnexpected, Rule.braceUnclosed, Rule.commentUnclosed,
      Rule.stringUnclosed]

theorem endIssues_eq_nil_iff (file : SourceFile) (lines : Nat) (p : Pass) :
    endIssues file lines (p.scan []) = [] ↔ p.depth ≤ 0 ∧ p.region = .code := by
  rw [endIssues_scan]
  cases p.region <;> simp

/-- **The report of a stylesheet, from its braces.** Take the braces that stand
outside comments and strings. The unexpected ones are as many as the closing
braces of a beginning outnumber its opening ones at most. With these set aside,
what opens more often than it closes is reported as unclosed, once and with its
number, and otherwise nothing is. So there is no issue exactly if the braces are
made up of pairs and the end of the text is code. -/
theorem report_counts_braces (file : SourceFile) :
    let met := (trace [] .code file.content.toList).1.map Prod.snd
    let last := (trace [] .code file.content.toList).2
    ∃ found, (check file).result = .ok found ∧
      let unexpected : Int := found.countP (·.rule == "unbalanced-brace-unexpected")
      let unclosed : Int := met.count '{' - met.count '}' + unexpected
      IsGreatest {d : Int | ∃ p, p <+: met ∧ d = p.count '}' - p.count '{'} unexpected ∧
      (found.filter (·.rule == "unbalanced-brace-unclosed")).map (·.message) =
        (if 0 < unclosed then
          ["Unclosed brace: " ++ toString unclosed ++ " opening brace(s) without matching close"]
        else []) ∧
      (found = [] ↔ Matched met ∧ last = .code) := by
  intro met last
  have hbrace : ∀ b ∈ (trace [] .code file.content.toList).1, isBrace b.2 = true :=
    fun b hb => isBrace_of_mem_trace hb
  obtain ⟨strays, depth, hcount⟩ : ∃ strays depth,
      count 0 (trace [] .code file.content.toList).1 = (strays, depth) := ⟨_, _, rfl⟩
  have hcounted : Counted 0 met strays.length depth := by
    simpa only [hcount] using count_counted hbrace (Int.le_refl 0)
  have hgreatest := strays_isGreatest hbrace
  have hclean := count_clean_iff hbrace
  refine ⟨issues file, rfl, ?_⟩
  rw [issues_eq_count, hcount]
  rw [hcount] at hgreatest hclean
  have hdepth : (met.count '{' : Int) - met.count '}' + strays.length = depth := by
    have hlast := hcounted.last
    have hnet : net met = met.count '{' - met.count '}' := rfl
    omega
  have hnonneg : 0 ≤ depth := by
    have hlast := hcounted.last
    have hall := hcounted.nonneg met (List.prefix_refl met)
    omega
  dsimp only
  rw [countP_unexpected, filter_unclosed, List.length_map, hdepth]
  refine ⟨hgreatest, rfl, ?_⟩
  rw [List.append_eq_nil_iff, endIssues_eq_nil_iff, ← hclean]
  simp only [List.map_eq_nil_iff, Prod.mk.injEq]
  constructor
  · rintro ⟨hstrays, hle, hregion⟩
    exact ⟨⟨hstrays, by omega⟩, hregion⟩
  · rintro ⟨⟨hstrays, hzero⟩, hregion⟩
    exact ⟨hstrays, by omega, hregion⟩

-- the first brace is a stray, the second pair is closed, and two braces stay open
example :
    let file : SourceFile := { path := "a.css", content := "\x7d a\x7b\x7d b\x7b c\x7b" }
    (issues file).map (·.message) = ["Unexpected closing brace",
      "Unclosed brace: 2 opening brace(s) without matching close"] := by decide +kernel

end SiteAudit.Stylesheet
