import SiteAudit.Proofs.Stylesheet.Counting
import SiteAudit.Proofs.Stylesheet.Unsealed

/-!
# Text in quotes

The balance check knows strings and passes over what they hold. The search for
selectors knows comments, addresses and braces only, and sees those in a string as
well. Here a rule `a{b:"…"}` stands in front of a stylesheet, with any text
between its quotes.

* `scanLines_quotedRule`: the balance check goes on behind the rule as from the
  start, whatever the string holds.
* `sealed_quotedRule`: the rule is sealed exactly if the text in its string is.
* `quoted_text_ignored_iff`: the search goes on behind the rule as from the start
  for every stylesheet that may follow exactly if the text in the string is sealed
  and the rule defines nothing.
-/
namespace SiteAudit.Stylesheet

open Text Markup References

/-- A rule with a string in its body. -/
def quotedRule (x : List Char) : List Char :=
  'a' :: '{' :: 'b' :: ':' :: '"' :: (x ++ ['"'] ++ ['}'])

/-! ## The balance check -/

/-- Text in a string that holds neither its quote nor a backslash is passed over. -/
theorem scanLine_string {x : List Char} (hx : ∀ c ∈ x, c ≠ '"' ∧ c ≠ '\\')
    (line column depth : Nat) (r : List Char) :
    scanLine line column ⟨depth, .string '"' false⟩ (x ++ r) =
      scanLine line (column + x.length) ⟨depth, .string '"' false⟩ r := by
  induction x generalizing column with
  | nil => rfl
  | cons c x ih =>
    obtain ⟨⟨hquote, hslash⟩, hmore⟩ := List.forall_mem_cons.mp hx
    have hescape : (c == '\\') = false := by simpa using hslash
    rw [List.cons_append, scanLine, if_neg (by simp [hquote]), hescape, ih hmore,
      List.length_cons, Nat.add_assoc, Nat.add_comm 1]

theorem scanLines_quotedRule {x : List Char} (hx : ∀ c ∈ x, c ≠ '"' ∧ c ≠ '\\' ∧ c ≠ '\n')
    (s : List Char) :
    scanLines 1 {} (splitOn '\n' (quotedRule x ++ s)) = resume 1 (quotedRule x).length {} s := by
  have hlead : ∀ c ∈ quotedRule x, c ≠ '\n' := by
    rintro c hc rfl
    have hmem : '\n' ∈ x := by simpa [quotedRule] using hc
    exact (hx _ hmem).2.2 rfl
  have hread : ∀ piece, piece <+: s → scanLine 1 0 {} (quotedRule x ++ piece) =
      ([] ++ (scanLine 1 (0 + (quotedRule x).length) {} piece).1,
        (scanLine 1 (0 + (quotedRule x).length) {} piece).2) := by
    intro piece _
    have hstring := scanLine_string (fun c hc => ⟨(hx c hc).1, (hx c hc).2.1⟩) 1 5 1
      ('"' :: '}' :: piece)
    have hlength : (quotedRule x).length = 5 + x.length + 2 := by simp [quotedRule]; omega
    rw [hlength]
    simpa [quotedRule, scanLine, isQuote, Nat.add_assoc] using hstring
  rw [scanLines_eq_resume, resume_read hlead hread]
  simp

/-! ## The search for selectors -/

theorem closed_quotedRule {x : List Char} : Closed (quotedRule x) ↔ Closed x := by
  rw [quotedRule, closed_cons (by decide), closed_cons (by decide), closed_cons (by decide),
    closed_cons (by decide), closed_cons (by decide), closed_concat (by decide),
    closed_concat (by decide)]

/-- The parts of the rule stay, and the text in its string is cleaned by itself. -/
theorem clean_quotedRule {x : List Char} (h : Closed x) :
    clean (quotedRule x) = quotedRule (clean x) := by
  have hquote : Border '"' := by decide
  have hclosed : Closed (x ++ ['"']) := (closed_concat hquote).mpr h
  rw [quotedRule, clean_cons (by decide), clean_cons (by decide), clean_cons (by decide),
    clean_cons (by decide), clean_cons (by decide), hclosed.clean_concat (by decide),
    h.clean_concat hquote, quotedRule]

/-- **The rule is sealed exactly if its string is.** -/
theorem sealed_quotedRule {x : List Char} : Sealed (quotedRule x) ↔ Sealed x := by
  have hnet : ∀ s, net (quotedRule s) = net s := by
    intro s
    simp only [quotedRule, net_open, net_append, net_close, net_nil,
      net_other (by decide : 'a' ≠ '{') (by decide), net_other (by decide : 'b' ≠ '{') (by decide),
      net_other (by decide : ':' ≠ '{') (by decide), net_other (by decide : '"' ≠ '{') (by decide)]
    omega
  constructor
  · intro h
    have hclosed := closed_quotedRule.mp h.toClosed
    exact ⟨hclosed, by rw [← hnet, ← clean_quotedRule hclosed, h.braces]⟩
  · intro h
    exact ⟨closed_quotedRule.mpr h.toClosed, by rw [clean_quotedRule h.toClosed, hnet, h.braces]⟩

/-- A string with balanced braces stays within the block, so that the only selector
is `a`, which holds no name. -/
theorem defines_quotedRule {x : List Char} (h : Closed x) (hbalanced : Balanced (clean x))
    (kind : SelectorKind) (name : String) :
    defines (Definitions.addSheet {} (quotedRule x)) kind name = false := by
  let rule : Block := ⟨['a'], ['b', ':', '"'] ++ clean x ++ ['"']⟩
  have hbody : Balanced (['b', ':', '"'] ++ clean x ++ ['"']) :=
    ((by decide : Balanced ['b', ':', '"']).append hbalanced).append (by decide)
  have hpreludes : preludes (clean (quotedRule x)) = [['a']] := by
    have hrule : quotedRule (clean x) = rule.text ++ [] := by simp [rule, quotedRule, Block.text]
    rw [clean_quotedRule h, hrule, preludes_block ⟨(by decide : BraceFree ['a']), hbody⟩]
    rfl
  have hnone : ¬Names kind ['a'] name := by
    rw [← mem_namesOf]
    cases kind <;> exact List.not_mem_nil
  rw [Bool.eq_false_iff, ne_eq, defines_addSheet, hpreludes]
  simpa [defines_empty] using hnone

/-- **What a string may hold.** The search for selectors passes over a rule with a
string, for every stylesheet that may follow, exactly if the text in the string is
sealed and the rule defines nothing: then no comment or address of the string goes
on behind it, its braces cancel out, and none of them makes a selector of it. It
is so if comments and addresses are closed and the braces outside them balanced.
The balance check passes over every string. -/
theorem quoted_text_ignored_iff {x : List Char}
    (hx : ∀ c ∈ x, c ≠ '"' ∧ c ≠ '\'' ∧ c ≠ '\\' ∧ c ≠ '\n') :
    ((∀ s, defines (Definitions.addSheet {} (quotedRule x ++ s)) =
        defines (Definitions.addSheet {} s)) ↔
      Sealed x ∧ ∀ kind name,
        defines (Definitions.addSheet {} (quotedRule x)) kind name = false) ∧
    (Closed x → Balanced (clean x) → ∀ s,
      defines (Definitions.addSheet {} (quotedRule x ++ s)) =
        defines (Definitions.addSheet {} s)) ∧
    ∀ s, scanLines 1 {} (splitOn '\n' (quotedRule x ++ s)) =
      resume 1 (quotedRule x).length {} s := by
  have hend : ['}'] <:+ quotedRule x := ⟨'a' :: '{' :: 'b' :: ':' :: '"' :: (x ++ ['"']), rfl⟩
  have hignored : Sealed x →
      (∀ kind name, defines (Definitions.addSheet {} (quotedRule x)) kind name = false) → ∀ s,
      defines (Definitions.addSheet {} (quotedRule x ++ s)) =
        defines (Definitions.addSheet {} s) := by
    intro hsealed hnothing s
    funext kind name
    rw [(sealed_quotedRule.mpr hsealed).addSheet_append hend, additive_addSheet,
      hnothing kind name, Bool.false_or]
  refine ⟨⟨fun hlaw => ⟨?_, fun kind name => ?_⟩, fun h => hignored h.1 h.2⟩,
    fun hclosed hbalanced => hignored ⟨hclosed, hbalanced.closed⟩
      (defines_quotedRule hclosed hbalanced),
    scanLines_quotedRule fun c hc => ⟨(hx c hc).1, (hx c hc).2.2.1, (hx c hc).2.2.2⟩⟩
  · refine sealed_quotedRule.mp (sealed_of_keepsBehind hend fun b name hdefined => ?_)
    rw [hlaw b]
    exact hdefined
  · -- with nothing behind it the rule itself must define nothing
    have hempty := congrFun (congrFun (hlaw []) kind) name
    rw [List.append_nil] at hempty
    rw [hempty]
    cases kind <;> rfl

/-- A brace in an address, one in a comment, and a pair of braces. -/
theorem quoted_text_ignored_braces :
    let x := "url(\x7d)/*\x7b*/\x7b\x7d".toList
    (∀ c ∈ x, c ≠ '"' ∧ c ≠ '\'' ∧ c ≠ '\\' ∧ c ≠ '\n') ∧ Closed x ∧ Balanced (clean x) ∧
    Sealed x ∧ ∀ s, defines (Definitions.addSheet {} (quotedRule x ++ s)) =
      defines (Definitions.addSheet {} s) := by
  intro x
  have hx : ∀ c ∈ x, c ≠ '"' ∧ c ≠ '\'' ∧ c ≠ '\\' ∧ c ≠ '\n' := by simp [x]
  have hcut : WithComments "url(\x7d)\x7b\x7d".toList x :=
    .behind "url(\x7d)".toList (.comment ['{'] (by decide) (.behind ['{', '}'] .nil))
  have hclosed : Closed x := ⟨⟨_, hcut.uncommented (by decide +kernel)⟩, by decide +kernel⟩
  have hbalanced : Balanced (clean x) := by decide +kernel
  have hlaw := (quoted_text_ignored_iff hx).2.1 hclosed hbalanced
  exact ⟨hx, hclosed, hbalanced, ((quoted_text_ignored_iff hx).1.mp hlaw).1, hlaw⟩

/-- A brace, the beginning of a comment and that of an address, each in a string:
the class behind the rule is defined without the rule and lost with it. -/
theorem quoted_marks_mislead :
    [("\x7d", ".c\x7b\x7d"), ("/*", ".c\x7b\x7d*/"), ("url(", ".c\x7b\x7d)")].map (fun p =>
      (defines (Definitions.addSheet {} p.2.toList) .cls "c",
        defines (Definitions.addSheet {} (quotedRule p.1.toList ++ p.2.toList)) .cls "c")) =
      List.replicate 3 (true, false) := by
  decide +kernel

end SiteAudit.Stylesheet
