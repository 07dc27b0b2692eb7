import SiteAudit.Proofs.Script.Search
import SiteAudit.Script.Check

/-!
# The first fault of a script

Every node of a tree carries a flag for the faults in it. The search relies on the
flags and the check of a script on the flag of the root. Where the flags are right
(`Consistent`) nothing is lost by that.

* `Consistent.led`: right flags lead to every fault.
* `consistent_iff`: flags are right if each fits those of the children, which can
  be computed (`flagsFit`).
* `issuesOf_consistent`: the check reports what the search finds.
* `search_finds_first_fault`: the first fault of the tree is found and reported,
  and nothing else.
-/
namespace SiteAudit.Script

namespace SyntaxNode

/-! ## Trees whose flags are right -/

/-- Whether every node says rightly if there is a fault in it. -/
def Consistent (root : SyntaxNode) : Prop :=
  ∀ path n, root.nodeAt? path = some n →
    (n.hasFault = true ↔ ∃ q m, n.nodeAt? q = some m ∧ m.isFault = true)

theorem nodeAt?_append (root : SyntaxNode) (a b : List Nat) :
    root.nodeAt? (a ++ b) = (root.nodeAt? a).bind (fun n => n.nodeAt? b) := by
  induction a generalizing root with
  | nil => rfl
  | cons i a ih =>
    rw [List.cons_append, nodeAt?, nodeAt?]
    cases root.children[i]? with
    | none => rfl
    | some child => exact ih child

/-- Right flags lead to every fault: each node on the way has the fault in it. -/
theorem Consistent.led {root m : SyntaxNode} {path : List Nat} (h : root.Consistent)
    (hat : root.nodeAt? path = some m) (hfault : m.isFault = true) : root.Led path := by
  rintro front n - ⟨rest, rfl⟩ hn
  rw [nodeAt?_append, hn] at hat
  have hflag : n.hasFault = true := (h front n hn).mpr ⟨rest, m, hat, hfault⟩
  simp [isFlagged, hflag]

theorem Consistent.isFirst_led {root n : SyntaxNode} {path : List Nat} (h : root.Consistent) :
    root.IsFirst root.Led path n ↔ root.IsFirst (fun _ => True) path n := by
  constructor
  · rintro ⟨hat, -, hfault, hfirst⟩
    refine ⟨hat, trivial, hfault, fun q m hlt _ hm => ?_⟩
    cases hq : m.isFault with
    | false => rfl
    | true => exact hq.symm.trans (hfirst q m hlt (h.led hm hq) hm)
  · rintro ⟨hat, -, hfault, hfirst⟩
    exact ⟨hat, h.led hat hfault, hfault, fun q m hlt _ => hfirst q m hlt trivial⟩

theorem Consistent.firstFault_none {root : SyntaxNode} (h : root.Consistent) :
    root.firstFault = none ↔ ∀ path n, root.nodeAt? path = some n → n.isFault = false := by
  rw [firstFault_eq_none_iff]
  constructor
  · intro hnone path n hat
    cases hn : n.isFault with
    | false => rfl
    | true => exact hn.symm.trans (hnone path n hat (h.led hat hn))
  · exact fun hnone path n hat _ => hnone path n hat

/-- The flag of the root alone tells whether there is a fault at all. -/
theorem Consistent.hasFault_false {root : SyntaxNode} (h : root.Consistent) :
    root.hasFault = false ↔ root.firstFault = none := by
  rw [h.firstFault_none, ← Bool.not_eq_true, h [] root rfl]
  constructor
  · intro hnone path n hat
    exact Bool.eq_false_iff.mpr fun hfault => hnone ⟨path, n, hat, hfault⟩
  · rintro hnone ⟨path, n, hat, hfault⟩
    rw [hnone path n hat] at hfault
    cases hfault

mutual

/-- Whether the flag of each node fits those of its children. -/
def flagsFit : SyntaxNode → Bool
  | mk kind missing hasFault _ _ _ _ children =>
    hasFault == (kind == errorKind || missing || children.any SyntaxNode.hasFault) &&
      allFlagsFit children

/-- The same for each tree of a list. -/
def allFlagsFit : List SyntaxNode → Bool
  | [] => true
  | n :: more => n.flagsFit && allFlagsFit more

end

theorem allFlagsFit_iff (nodes : List SyntaxNode) :
    allFlagsFit nodes = true ↔ ∀ n ∈ nodes, n.flagsFit = true := by
  induction nodes with
  | nil => simp [allFlagsFit]
  | cons n more ih => simp [allFlagsFit, ih]

theorem flagsFit_iff (n : SyntaxNode) :
    n.flagsFit = true ↔
      (n.hasFault = true ↔ n.isFault = true ∨ ∃ c ∈ n.children, c.hasFault = true) ∧
        ∀ c ∈ n.children, c.flagsFit = true := by
  cases n
  rw [flagsFit, Bool.and_eq_true, beq_iff_eq, allFlagsFit_iff, Bool.eq_iff_iff]
  simp [isFault, SyntaxNode.kind, SyntaxNode.missing, SyntaxNode.hasFault, SyntaxNode.children]

theorem sizes_mem {n : SyntaxNode} {nodes : List SyntaxNode} (h : n ∈ nodes) :
    n.size ≤ sizes nodes := by
  induction nodes with
  | nil => cases h
  | cons m more ih =>
    rw [sizes]
    rcases List.mem_cons.mp h with rfl | h
    · omega
    · exact Nat.le_trans (ih h) (Nat.le_add_left ..)

theorem size_lt_of_child {n child : SyntaxNode} (h : child ∈ n.children) : child.size < n.size := by
  rw [size_eq n, Nat.add_comm]
  exact Nat.lt_succ_of_le (sizes_mem h)

theorem hasFault_of_fault {n m : SyntaxNode} {path : List Nat} (h : n.flagsFit = true)
    (hat : n.nodeAt? path = some m) (hfault : m.isFault = true) : n.hasFault = true := by
  induction path generalizing n with
  | nil =>
    obtain rfl : n = m := by simpa [nodeAt?] using hat
    exact ((flagsFit_iff n).mp h).1.mpr (Or.inl hfault)
  | cons i path ih =>
    obtain ⟨child, hc, hat⟩ := exists_child hat
    have hmem := List.mem_of_getElem? hc
    obtain ⟨hfit, hchildren⟩ := (flagsFit_iff n).mp h
    exact hfit.mpr (Or.inr ⟨child, hmem, ih (hchildren child hmem) hat⟩)

/-- Flags that fit lead from the root down to a fault. -/
theorem exists_fault (n : SyntaxNode) (h : n.flagsFit = true) (hflag : n.hasFault = true) :
    ∃ path m, n.nodeAt? path = some m ∧ m.isFault = true := by
  obtain ⟨hfit, hchildren⟩ := (flagsFit_iff n).mp h
  rcases hfit.mp hflag with hfault | ⟨child, hmem, hc⟩
  · exact ⟨[], n, rfl, hfault⟩
  · obtain ⟨i, hi⟩ := List.getElem?_of_mem hmem
    obtain ⟨path, m, hat, hfault⟩ := exists_fault child (hchildren child hmem) hc
    exact ⟨i :: path, m, (nodeAt?_cons hi path).trans hat, hfault⟩
termination_by n.size
decreasing_by exact size_lt_of_child hmem

theorem Consistent.child {n child : SyntaxNode} (h : n.Consistent) (hmem : child ∈ n.children) :
    child.Consistent := by
  obtain ⟨i, hi⟩ := List.getElem?_of_mem hmem
  exact fun path m hat => h (i :: path) m ((nodeAt?_cons hi path).trans hat)

theorem Consistent.flagsFit (n : SyntaxNode) (h : n.Consistent) : n.flagsFit = true := by
  refine (flagsFit_iff n).mpr ⟨(h [] n rfl).trans ⟨?_, ?_⟩, fun child hmem =>
    flagsFit child (h.child hmem)⟩
  · rintro ⟨path, m, hat, hfault⟩
    cases path with
    | nil =>
      obtain rfl : n = m := by simpa [nodeAt?] using hat
      exact Or.inl hfault
    | cons i path =>
      obtain ⟨child, hc, hat⟩ := exists_child hat
      have hmem := List.mem_of_getElem? hc
      exact Or.inr ⟨child, hmem, (h.child hmem [] child rfl).mpr ⟨path, m, hat, hfault⟩⟩
  · rintro (hfault | ⟨child, hmem, hflag⟩)
    · exact ⟨[], n, rfl, hfault⟩
    · obtain ⟨i, hi⟩ := List.getElem?_of_mem hmem
      obtain ⟨path, m, hat, hfault⟩ := (h.child hmem [] child rfl).mp hflag
      exact ⟨i :: path, m, (nodeAt?_cons hi path).trans hat, hfault⟩
termination_by n.size
decreasing_by exact size_lt_of_child hmem

theorem flagsFit_nodeAt {n m : SyntaxNode} {path : List Nat} (h : n.flagsFit = true)
    (hat : n.nodeAt? path = some m) : m.flagsFit = true := by
  induction path generalizing n with
  | nil =>
    obtain rfl : n = m := by simpa [nodeAt?] using hat
    exact h
  | cons i path ih =>
    obtain ⟨child, hc, hat⟩ := exists_child hat
    exact ih (((flagsFit_iff n).mp h).2 child (List.mem_of_getElem? hc)) hat

/-- It is enough to compare each flag with those of the children. -/
theorem consistent_iff (n : SyntaxNode) : n.Consistent ↔ n.flagsFit = true := by
  refine ⟨Consistent.flagsFit n, fun h path m hat => ?_⟩
  have hfits := flagsFit_nodeAt h hat
  exact ⟨exists_fault m hfits, fun ⟨_, _, hq, hfault⟩ => hasFault_of_fault hfits hq hfault⟩

instance (n : SyntaxNode) : Decidable n.Consistent := decidable_of_iff _ n.consistent_iff.symm

end SyntaxNode

open SyntaxNode

/-! ## The check -/

theorem faultMessage_ne (content : List Char) (n : SyntaxNode) :
    faultMessage content n ≠ "Syntax error" := by
  intro h
  have hlist := congrArg String.toList h
  unfold faultMessage at hlist
  split at hlist <;> simp at hlist

/-- The issue for a fault, at the place of its node. -/
def faultIssue (file : SourceFile) (n : SyntaxNode) : Issue :=
  let content := file.content.toList
  let (line, column) := place n.row n.column content
  issueAt file Rule.scriptSyntaxError (faultMessage content n) line column

/-- Where the flags are right, the issues are those of the search: the flag of the
root spares a search in vain, and no search is in vain behind it. -/
theorem issuesOf_consistent (file : SourceFile) {root : SyntaxNode} (h : root.Consistent) :
    issuesOf file (.ok root) = (root.firstFault.map (faultIssue file)).toList := by
  cases hfirst : root.firstFault with
  | none => simp [issuesOf, h.hasFault_false.mpr hfirst]
  | some n =>
    have hflag : root.hasFault = true := by
      rw [← Bool.not_eq_false, h.hasFault_false, hfirst]
      exact Option.some_ne_none n
    simp [issuesOf, hflag, hfirst, faultIssue]

/-- **First fault.** In every tree the search finds the first fault, in document
order, among the nodes whose paths are flagged below the root, and nothing if
there is none. Where the flags are right that is the first fault of the whole
tree, and a root with a flag always has one. Then the check of a script that the
parser gives such a tree for has no issue exactly if the tree has no fault, and
otherwise the one issue of the first, never the one that is meant for a tree
without a fault to show. -/
theorem search_finds_first_fault (root : SyntaxNode) :
    (∀ n, root.firstFault = some n ↔ ∃ path, root.IsFirst root.Led path n) ∧
    (root.firstFault = none ↔
      ∀ path n, root.nodeAt? path = some n → root.Led path → n.isFault = false) ∧
    (root.Consistent →
      (∀ n, root.firstFault = some n ↔ ∃ path, root.IsFirst (fun _ => True) path n) ∧
      (root.hasFault = true → root.firstFault ≠ none) ∧
      ∀ (parse : Parse) (file : SourceFile), parse file.content = .ok root →
        ((checkWith parse file).result = .ok [] ↔
          ∀ path n, root.nodeAt? path = some n → n.isFault = false) ∧
        ((∃ path n, root.nodeAt? path = some n ∧ n.isFault = true) →
          ∃ path n line column, root.IsFirst (fun _ => True) path n ∧
            place n.row n.column file.content.toList = (line, column) ∧
            (checkWith parse file).result = .ok
              [issueAt file Rule.scriptSyntaxError (faultMessage file.content.toList n)
                line column]) ∧
        ∀ i ∈ (checkWith parse file).issues, i.message ≠ "Syntax error") := by
  refine ⟨firstFault_eq_some_iff root, firstFault_eq_none_iff root, fun hflags => ?_⟩
  have hsome : ∀ n, root.firstFault = some n ↔ ∃ path, root.IsFirst (fun _ => True) path n := by
    intro n
    rw [firstFault_eq_some_iff]
    exact exists_congr fun path => hflags.isFirst_led
  have hflag : root.hasFault = true → root.firstFault ≠ none := by
    intro h hnone
    rw [hflags.hasFault_false.mpr hnone] at h
    cases h
  refine ⟨hsome, hflag, fun parse file hparse => ?_⟩
  have hissues := issuesOf_consistent file hflags
  have hresult : (checkWith parse file).result = .ok (issuesOf file (.ok root)) := by
    rw [← hparse]
    rfl
  have hnone := hflags.firstFault_none
  simp only [Findings.issues, hresult, hissues]
  cases hfirst : root.firstFault with
  | none =>
    have hclean := hnone.mp hfirst
    refine ⟨iff_of_true rfl hclean, ?_, by simp⟩
    rintro ⟨path, n, hat, hfault⟩
    rw [hclean path n hat] at hfault
    cases hfault
  | some n =>
    obtain ⟨path, hn⟩ := (hsome n).mp hfirst
    refine ⟨iff_of_false (by simp) fun hclean => ?_, fun _ => ⟨path, n, _, _, hn, rfl, rfl⟩, ?_⟩
    · rw [hnone.mpr hclean] at hfirst
      cases hfirst
    · intro i hi
      obtain rfl : i = faultIssue file n := by simpa using hi
      exact faultMessage_ne _ n

/-- The node of a mark that is missing behind five bytes of the second line. -/
def missingMark : SyntaxNode := .mk ";" true true 1 5 8 8 []

/-- A tree with two faults: the first is deeper in the tree than the second. -/
def brokenTree : SyntaxNode :=
  .mk "program" false true 0 0 0 10
    [.mk "expression_statement" false false 0 0 0 2 [.mk "identifier" false false 0 0 0 1 []],
      .mk "lexical_declaration" false true 1 0 3 8
        [.mk "identifier" false false 1 4 7 8 [], missingMark],
      .mk errorKind false true 2 0 9 10 [.mk ")" false false 2 0 9 10 []]]

theorem brokenTree_first_fault :
    brokenTree.Consistent ∧
    (∃ path, brokenTree.IsFirst (fun _ => True) path missingMark) ∧
    (checkWith (fun _ => .ok brokenTree) ⟨"a.js", "a;\nlet b\n)"⟩).result ≠ .ok [] := by
  have hflags : brokenTree.Consistent := by decide
  have hfirst : brokenTree.firstFault = some missingMark := by
    rw [firstFault_eq_find?]
    rfl
  obtain ⟨-, -, h⟩ := search_finds_first_fault brokenTree
  obtain ⟨hsome, -, hcheck⟩ := h hflags
  refine ⟨hflags, (hsome missingMark).mp hfirst, fun hclean => ?_⟩
  have hnone := (hcheck (fun _ => .ok brokenTree) _ rfl).1.mp hclean
  cases hnone [1, 1] missingMark rfl

end SiteAudit.Script
