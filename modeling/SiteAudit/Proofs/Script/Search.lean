import SiteAudit.Script.SyntaxNode

/-!
# The search for the first fault

The search keeps a list of nodes still to be looked at and passes over children
without a flag. What it ought to find is told by paths: a path is the list of the
child numbers that lead to a node, and paths in the order of lists are nodes in
document order, a node before its children and these from left to right.

* `searchPending_eq_find?`: the search is one for the first fault in the listing
  `places` of the nodes that flags lead to.
* `mem_places`, `places_sorted`: this listing holds just these nodes, in document
  order.
* `firstFault_eq_some_iff`, `firstFault_eq_none_iff`: so the search finds the first
  of them that is a fault.
-/
namespace SiteAudit.Script

namespace SyntaxNode

/-! ## Paths -/

/-- The node to which a path leads. -/
def nodeAt? : SyntaxNode → List Nat → Option SyntaxNode
  | n, [] => some n
  | n, i :: path =>
    match n.children[i]? with
    | none => none
    | some child => child.nodeAt? path

/-- Whether all nodes on a path have a flag, the root aside. -/
def Led (root : SyntaxNode) (path : List Nat) : Prop :=
  ∀ front n, front ≠ [] → front <+: path → root.nodeAt? front = some n → n.isFlagged = true

theorem nodeAt?_cons {n child : SyntaxNode} {i : Nat} (h : n.children[i]? = some child)
    (path : List Nat) : n.nodeAt? (i :: path) = child.nodeAt? path := by
  simp [nodeAt?, h]

theorem exists_child {n m : SyntaxNode} {i : Nat} {path : List Nat}
    (h : n.nodeAt? (i :: path) = some m) :
    ∃ child, n.children[i]? = some child ∧ child.nodeAt? path = some m := by
  cases hc : n.children[i]? with
  | none => simp [nodeAt?, hc] at h
  | some child => exact ⟨child, rfl, (nodeAt?_cons hc path).symm.trans h⟩

theorem led_nil (root : SyntaxNode) : root.Led [] := by
  intro front n hne hpre
  exact absurd (List.prefix_nil.mp hpre) hne

theorem led_cons {n child : SyntaxNode} {i : Nat} (h : n.children[i]? = some child)
    (path : List Nat) : n.Led (i :: path) ↔ child.isFlagged = true ∧ child.Led path := by
  constructor
  · intro hled
    refine ⟨hled [i] child (by simp) ⟨path, rfl⟩ (nodeAt?_cons h []), fun front m hne hpre hm => ?_⟩
    exact hled (i :: front) m (by simp) (List.cons_prefix_cons.mpr ⟨rfl, hpre⟩)
      ((nodeAt?_cons h front).trans hm)
  · rintro ⟨hflag, hled⟩ front m hne hpre hm
    obtain ⟨front, rfl⟩ : ∃ rest, front = i :: rest := by
      cases front with
      | nil => exact absurd rfl hne
      | cons j front => exact ⟨front, by rw [(List.cons_prefix_cons.mp hpre).1]⟩
    rw [nodeAt?_cons h] at hm
    cases front with
    | nil =>
      obtain rfl : child = m := by simpa [nodeAt?] using hm
      exact hflag
    | cons j front => exact hled (j :: front) m (by simp) (List.cons_prefix_cons.mp hpre).2 hm

/-! ## The listing of the nodes that flags lead to -/

mutual

/-- The nodes that flags lead to, in document order, with their paths. -/
def places : SyntaxNode → List (List Nat × SyntaxNode)
  | mk kind missing hasFault row column start stop children =>
    ([], mk kind missing hasFault row column start stop children) :: placesFrom 0 children

/-- The same for the children of a node from the one with number `i` on. -/
def placesFrom (i : Nat) : List SyntaxNode → List (List Nat × SyntaxNode)
  | [] => []
  | child :: more =>
    (if child.isFlagged then child.places.map (fun p => (i :: p.1, p.2)) else []) ++
      placesFrom (i + 1) more

end

theorem places_eq (n : SyntaxNode) : n.places = ([], n) :: placesFrom 0 n.children := by
  cases n
  rw [places]
  rfl

theorem placesFrom_nodes (i : Nat) (children : List SyntaxNode) :
    (placesFrom i children).map Prod.snd =
      ((children.filter isFlagged).flatMap places).map Prod.snd := by
  induction children generalizing i with
  | nil => rfl
  | cons child more ih =>
    rw [placesFrom, List.map_append, ih]
    cases hflag : child.isFlagged with
    | true => simp [List.filter_cons_of_pos hflag]
    | false => simp [hflag]

/-- **The search.** Looking through the pending nodes is looking through their
listings one after the other. -/
theorem searchPending_eq_find? (pending : List SyntaxNode) :
    searchPending pending = ((pending.flatMap places).map Prod.snd).find? isFault := by
  fun_induction searchPending pending with
  | case1 => rfl
  | case2 n rest hfault => simp [places_eq, hfault]
  | case3 n rest hfault ih =>
    rw [ih, List.flatMap_append, List.map_append, ← placesFrom_nodes 0 n.children,
      List.flatMap_cons, places_eq]
    simp [hfault]

theorem mem_placesFrom (children : List SyntaxNode) (i : Nat) (p : List Nat × SyntaxNode) :
    p ∈ placesFrom i children ↔
      ∃ j child path, children[j]? = some child ∧ child.isFlagged = true ∧
        p.1 = (i + j) :: path ∧ (path, p.2) ∈ child.places := by
  induction children generalizing i with
  | nil => simp [placesFrom]
  | cons child more ih =>
    rw [placesFrom, List.mem_append, ih]
    constructor
    · rintro (hfirst | ⟨j, c, path, hc, hflag, hp, hm⟩)
      · split at hfirst
        · obtain ⟨q, hq, rfl⟩ := List.mem_map.mp hfirst
          exact ⟨0, child, q.1, rfl, ‹_›, rfl, hq⟩
        · cases hfirst
      · exact ⟨j + 1, c, path, hc, hflag, by rw [hp, Nat.add_right_comm, Nat.add_assoc], hm⟩
    · rintro ⟨j, c, path, hc, hflag, hp, hm⟩
      cases j with
      | zero =>
        obtain rfl : child = c := by simpa using hc
        rw [if_pos hflag]
        exact Or.inl (List.mem_map.mpr ⟨(path, p.2), hm, Prod.ext hp.symm rfl⟩)
      | succ j =>
        exact Or.inr ⟨j, c, path, hc, hflag, by rw [hp, Nat.add_right_comm, Nat.add_assoc], hm⟩

/-- The listing holds the nodes whose paths are flagged all along, and no others. -/
theorem mem_places (path : List Nat) (n m : SyntaxNode) :
    (path, m) ∈ n.places ↔ n.nodeAt? path = some m ∧ n.Led path := by
  induction path generalizing n with
  | nil =>
    rw [places_eq, List.mem_cons]
    constructor
    · rintro (h | h)
      · obtain rfl : m = n := by simpa using h
        exact ⟨rfl, led_nil m⟩
      · obtain ⟨j, _, tail, -, -, hp, -⟩ := (mem_placesFrom n.children 0 ([], m)).mp h
        cases hp
    · rintro ⟨hat, -⟩
      obtain rfl : n = m := by simpa [nodeAt?] using hat
      exact Or.inl rfl
  | cons i path ih =>
    rw [places_eq, List.mem_cons, mem_placesFrom]
    constructor
    · rintro (h | ⟨j, child, tail, hc, hflag, hp, hm⟩)
      · cases h
      · obtain ⟨rfl, rfl⟩ : i = j ∧ path = tail := by simpa using hp
        obtain ⟨hat, hled⟩ := (ih child).mp hm
        exact ⟨(nodeAt?_cons hc path).trans hat, (led_cons hc path).mpr ⟨hflag, hled⟩⟩
    · rintro ⟨hat, hled⟩
      obtain ⟨child, hc, hat⟩ := exists_child hat
      obtain ⟨hflag, hled⟩ := (led_cons hc path).mp hled
      exact Or.inr ⟨i, child, path, hc, hflag, by simp, (ih child).mpr ⟨hat, hled⟩⟩

mutual

/-- The listing is in document order. -/
theorem places_sorted : ∀ n : SyntaxNode, n.places.Pairwise (fun a b => a.1 < b.1)
  | mk _ _ _ _ _ _ _ children => by
    rw [places]
    refine List.pairwise_cons.mpr ⟨fun p hp => ?_, placesFrom_sorted 0 children⟩
    obtain ⟨j, _, path, -, -, hpath, -⟩ := (mem_placesFrom children 0 p).mp hp
    rw [hpath]
    exact List.nil_lt_cons ..

theorem placesFrom_sorted (i : Nat) :
    ∀ children : List SyntaxNode, (placesFrom i children).Pairwise (fun a b => a.1 < b.1)
  | [] => by
    rw [placesFrom]
    exact List.Pairwise.nil
  | child :: more => by
    rw [placesFrom]
    refine List.pairwise_append.mpr ⟨?_, placesFrom_sorted (i + 1) more, ?_⟩
    · split
      · exact List.pairwise_map.mpr ((places_sorted child).imp List.cons_lt_cons_self.mpr)
      · exact List.Pairwise.nil
    · -- all that lies below a child comes before the next child
      intro p hp q hq
      obtain ⟨j, _, tail, -, -, hq, -⟩ := (mem_placesFrom more (i + 1) q).mp hq
      split at hp
      · obtain ⟨r, -, rfl⟩ := List.mem_map.mp hp
        rw [hq]
        exact List.cons_lt_cons_iff.mpr (Or.inl (by omega))
      · cases hp

end

/-! ## The first fault -/

/-- At `path` stands the first fault, in document order, among the nodes whose
paths satisfy `on`. -/
structure IsFirst (root : SyntaxNode) (on : List Nat → Prop) (path : List Nat)
    (n : SyntaxNode) : Prop where
  here : root.nodeAt? path = some n
  among : on path
  fault : n.isFault = true
  first : ∀ q m, q < path → on q → root.nodeAt? q = some m → m.isFault = false

theorem firstFault_eq_find? (root : SyntaxNode) :
    root.firstFault = (root.places.find? (fun p => p.2.isFault)).map Prod.snd := by
  rw [firstFault, searchPending_eq_find?, List.flatMap_singleton, List.find?_map]
  rfl

/-- In a sorted list a search finds what no smaller hit precedes. -/
theorem find?_eq_some_iff_first {α : Type} {r : α → α → Prop} (hr : ∀ a b, r a b → ¬ r b a)
    {l : List α} (hsorted : l.Pairwise r) (p : α → Bool) (a : α) :
    l.find? p = some a ↔ a ∈ l ∧ p a = true ∧ ∀ b ∈ l, r b a → p b = false := by
  rw [List.find?_eq_some_iff_append]
  constructor
  · rintro ⟨hp, before, after, rfl, hbefore⟩
    refine ⟨by simp, hp, fun b hb hlt => ?_⟩
    rcases List.mem_append.mp hb with hb | hb
    · simpa using hbefore b hb
    rcases List.mem_cons.mp hb with rfl | hb
    · exact absurd hlt (hr b b hlt)
    · have hgt := List.rel_of_pairwise_cons (List.pairwise_append.mp hsorted).2.1 hb
      exact absurd hgt (hr b a hlt)
  · rintro ⟨ha, hp, hfirst⟩
    obtain ⟨before, after, rfl⟩ := List.append_of_mem ha
    refine ⟨hp, before, after, rfl, fun b hb => ?_⟩
    have hlt := (List.pairwise_append.mp hsorted).2.2 b hb a (List.mem_cons_self ..)
    simp [hfirst b (by simp [hb]) hlt]

/-- The search finds the first fault among the nodes that flags lead to. -/
theorem firstFault_eq_some_iff (root n : SyntaxNode) :
    root.firstFault = some n ↔ ∃ path, root.IsFirst root.Led path n := by
  have hfind := find?_eq_some_iff_first (fun a b => List.lt_asymm) (places_sorted root)
    (fun p => p.2.isFault)
  rw [firstFault_eq_find?, Option.map_eq_some_iff]
  constructor
  · rintro ⟨⟨path, m⟩, h, rfl⟩
    obtain ⟨hmem, hfault, hfirst⟩ := (hfind (path, m)).mp h
    obtain ⟨hat, hled⟩ := (mem_places path root m).mp hmem
    exact ⟨path, hat, hled, hfault, fun q m' hlt hq hm =>
      hfirst (q, m') ((mem_places q root m').mpr ⟨hm, hq⟩) hlt⟩
  · rintro ⟨path, hat, hled, hfault, hfirst⟩
    refine ⟨(path, n), (hfind (path, n)).mpr
      ⟨(mem_places path root n).mpr ⟨hat, hled⟩, hfault, fun q hq hlt => ?_⟩, rfl⟩
    obtain ⟨hm, hqled⟩ := (mem_places q.1 root q.2).mp hq
    exact hfirst q.1 q.2 hlt hqled hm

theorem firstFault_eq_none_iff (root : SyntaxNode) :
    root.firstFault = none ↔
      ∀ path n, root.nodeAt? path = some n → root.Led path → n.isFault = false := by
  rw [firstFault_eq_find?, Option.map_eq_none_iff, List.find?_eq_none]
  constructor
  · intro h path n hat hled
    simpa using h (path, n) ((mem_places path root n).mpr ⟨hat, hled⟩)
  · intro h p hp
    obtain ⟨hat, hled⟩ := (mem_places p.1 root p.2).mp hp
    simp [h p.1 p.2 hat hled]

end SyntaxNode

end SiteAudit.Script
