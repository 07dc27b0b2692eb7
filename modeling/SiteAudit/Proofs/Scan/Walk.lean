import SiteAudit.Scan.Basic

/-!
# What a walk finds and in which order

A walk goes down real directories, leaves some out on the way and keeps the
files of interest. `Walked` says which paths it should find without going
anywhere: it looks at the entry at the end of a path and at each directory on
the path. `Before` is the order in which they should come.

* `isExcluded_iff`: the last exclusion that speaks about a path decides.
* `mem_walk`: the walk finds the paths of `Walked` and no others.
* `walk_sorted`: it finds them in the order `Before`, so each of them once.

Both are proved by induction over a tree whose directories have distinct names
(`WellNamed`): one directory is a step, and what the walk does in the
directories inside is the hypothesis.
-/
namespace SiteAudit.Scan

/-! ## Exclusions -/

/-- Whether an exclusion speaks about a path: it matches, and one for directories
only speaks about nothing else. -/
def Exclusion.Speaks (e : Exclusion) (path : List Char) (isDirectory : Bool) : Prop :=
  (e.directoryOnly = true → isDirectory = true) ∧ e.accepts path = true

/-- Whether a path is left out: of the exclusions that speak about it, the last
does not bring it back. -/
def Excluded (exclusions : List Exclusion) (path : List Char) (isDirectory : Bool) : Prop :=
  ∃ earlier e later, exclusions = earlier ++ e :: later ∧ e.Speaks path isDirectory ∧
    e.reinclude = false ∧ ∀ x ∈ later, ¬x.Speaks path isDirectory

theorem Exclusion.applies_iff (e : Exclusion) (path : List Char) (isDirectory : Bool) :
    e.applies path isDirectory = true ↔ e.Speaks path isDirectory := by
  unfold applies Speaks
  cases e.directoryOnly <;> simp

/-- The verdict of some exclusions when the verdict before them is `out`. -/
theorem foldl_applies_iff (exclusions : List Exclusion) (path : List Char)
    (isDirectory out : Bool) :
    exclusions.foldl (fun out e => if e.applies path isDirectory then !e.reinclude else out) out =
        true ↔
      Excluded exclusions path isDirectory ∨
        out = true ∧ ∀ x ∈ exclusions, ¬x.Speaks path isDirectory := by
  induction exclusions generalizing out with
  | nil =>
    have hnone : ¬Excluded [] path isDirectory := by
      rintro ⟨earlier, e, later, h, -⟩
      simp at h
    simp [hnone]
  | cons e more ih =>
    -- what the first exclusion says counts only if no later one speaks
    have hcons : Excluded (e :: more) path isDirectory ↔
        Excluded more path isDirectory ∨ e.Speaks path isDirectory ∧ e.reinclude = false ∧
          ∀ x ∈ more, ¬x.Speaks path isDirectory := by
      constructor
      · rintro ⟨earlier, x, later, h, hx⟩
        cases earlier with
        | nil =>
          obtain ⟨rfl, rfl⟩ := List.cons.inj h
          exact Or.inr hx
        | cons y earlier => exact Or.inl ⟨earlier, x, later, (List.cons.inj h).2, hx⟩
      · rintro (⟨earlier, x, later, rfl, hx⟩ | h)
        · exact ⟨e :: earlier, x, later, rfl, hx⟩
        · exact ⟨[], e, more, rfl, h⟩
    rw [List.foldl_cons, ih, hcons]
    by_cases h : e.Speaks path isDirectory
    · rw [if_pos ((e.applies_iff path isDirectory).mpr h)]
      simp [h]
    · rw [if_neg (fun ha => h ((e.applies_iff path isDirectory).mp ha))]
      simp [h]

theorem isExcluded_iff (exclusions : List Exclusion) (path : List Char) (isDirectory : Bool) :
    isExcluded exclusions path isDirectory = true ↔ Excluded exclusions path isDirectory := by
  rw [isExcluded, foldl_applies_iff]
  simp

/-! ## The order of a walk -/

/-- Which of two files comes first, by their paths. In one directory the files
stand before the directories, and both are in the order of their names. -/
inductive Before : List String → List String → Prop
  | files {f g : String} : f < g → Before [f] [g]
  | fileFirst {f d : String} {rest : List String} : rest ≠ [] → Before [f] (d :: rest)
  | directories {d d' : String} {rest rest' : List String} :
      rest ≠ [] → rest' ≠ [] → d < d' → Before (d :: rest) (d' :: rest')
  | inside {d : String} {rest rest' : List String} :
      Before rest rest' → Before (d :: rest) (d :: rest')

theorem Before.ne {r r' : List String} (h : Before r r') : r ≠ r' := by
  induction h with
  | files h =>
    rintro ⟨⟩
    exact String.lt_irrefl _ h
  | fileFirst h =>
    rintro ⟨⟩
    exact h rfl
  | directories _ _ h =>
    rintro ⟨⟩
    exact String.lt_irrefl _ h
  | inside _ ih => exact fun h => ih (List.cons.inj h).2

/-- The order within a directory is the order of the whole paths. -/
theorem Before.under {r r' : List String} (h : Before r r') (here : List String) :
    Before (here ++ r) (here ++ r') := by
  induction here with
  | nil => exact h
  | cons d here ih => exact .inside ih

/-! ## Sorting by name -/

theorem mem_sortByName {α : Type} {x : String × α} {xs : List (String × α)} :
    x ∈ sortByName xs ↔ x ∈ xs := List.mem_mergeSort

/-- Distinct names come out in strictly rising order. -/
theorem sortByName_pairwise {α : Type} {xs : List (String × α)} (h : (xs.map (·.1)).Nodup) :
    (sortByName xs).Pairwise (fun a b => a.1 < b.1) := by
  have hsorted : (sortByName xs).Pairwise (fun a b => decide (a.1 ≤ b.1) = true) := by
    apply List.pairwise_mergeSort
    · intro a b c hab hbc
      exact decide_eq_true (String.le_trans (of_decide_eq_true hab) (of_decide_eq_true hbc))
    · intro a b
      simp [String.le_total a.1 b.1]
  have hnodup : ((sortByName xs).map (·.1)).Nodup :=
    ((List.mergeSort_perm xs _).map (·.1)).nodup_iff.mpr h
  have hdistinct : (sortByName xs).Pairwise (fun a b => a.1 ≠ b.1) := List.pairwise_map.mp hnodup
  refine hsorted.imp₂ (fun a b hle hne => ?_) hdistinct
  exact String.not_le.mp fun hba => hne (String.le_antisymm (of_decide_eq_true hle) hba)

theorem map_fst_filterMap_sublist {α β : Type} {f : String × α → Option (String × β)}
    (h : ∀ x y, f x = some y → y.1 = x.1) (xs : List (String × α)) :
    ((xs.filterMap f).map (·.1)).Sublist (xs.map (·.1)) := by
  induction xs with
  | nil => exact .slnil
  | cons x more ih =>
    cases hx : f x with
    | none =>
      rw [List.filterMap_cons_none hx]
      exact ih.cons _
    | some y =>
      rw [List.filterMap_cons_some hx, List.map_cons, List.map_cons, h x y hx]
      exact ih.cons_cons _

/-! ## One directory -/

/-- A directory whose entries have distinct names without slashes, and so all the
way down. -/
inductive WellNamed : List (String × Entry) → Prop
  | intro {es : List (String × Entry)} (distinct : (es.map (·.1)).Nodup)
      (plain : ∀ x ∈ es, '/' ∉ x.1.toList)
      (inner : ∀ name below, (name, Entry.directory below) ∈ es → WellNamed below) : WellNamed es

theorem lookup_eq_some_iff {es : List (String × Entry)} (h : (es.map (·.1)).Nodup)
    {name : String} {e : Entry} : es.lookup name = some e ↔ (name, e) ∈ es := by
  induction es with
  | nil => simp
  | cons x more ih =>
    obtain ⟨n, old⟩ := x
    obtain ⟨hn, hmore⟩ := List.nodup_cons.mp h
    by_cases heq : name = n
    · subst heq
      have hnot : (name, e) ∉ more := fun hm => hn (List.mem_map.mpr ⟨_, hm, rfl⟩)
      simp [hnot, eq_comm]
    · have hbeq : (name == n) = false := by simpa using heq
      simp [List.lookup_cons, hbeq, heq, ih hmore]

theorem entryIn?_cons {es : List (String × Entry)} {name : String} {rest : List String} {e : Entry}
    (h : rest ≠ []) :
    Disk.entryIn? es (name :: rest) = some e ↔
      ∃ inner, es.lookup name = some (.directory inner) ∧ Disk.entryIn? inner rest = some e := by
  obtain ⟨next, more, rfl⟩ := List.exists_cons_of_ne_nil h
  cases hl : es.lookup name with
  | none => simp [Disk.entryIn?, hl]
  | some entry => cases entry <;> simp [Disk.entryIn?, hl]

namespace Scanner

variable (s : Scanner) (leadsToDirectory : List String → Bool)

/-- The files of interest in a directory and below it, in the order of the walk. -/
def walk (here : List String) (es : List (String × Entry)) : List Found :=
  s.filesHere leadsToDirectory here es ++
    (sortByName (s.below leadsToDirectory here es)).flatMap (·.2)

theorem below_eq (here : List String) (es : List (String × Entry)) :
    s.below leadsToDirectory here es = es.filterMap (fun x =>
      match x.2 with
      | .directory inner =>
        if s.enters here x.1 then some (x.1, s.walk leadsToDirectory (here ++ [x.1]) inner)
        else none
      | _ => none) := by
  induction es with
  | nil => simp [below]
  | cons x more ih =>
    obtain ⟨name, e⟩ := x
    cases e with
    | directory inner =>
      by_cases h : s.enters here name = true <;> simp [below, h, ih, walk]
    | file bytes => simp [below, ih]
    | link target => simp [below, ih]

theorem mem_below {here : List String} {es : List (String × Entry)} {name : String}
    {found : List Found} :
    (name, found) ∈ s.below leadsToDirectory here es ↔
      ∃ inner, (name, .directory inner) ∈ es ∧ s.enters here name = true ∧
        found = s.walk leadsToDirectory (here ++ [name]) inner := by
  rw [below_eq, List.mem_filterMap]
  constructor
  · rintro ⟨⟨n, e⟩, hmem, h⟩
    cases e with
    | directory inner =>
      by_cases henters : s.enters here n = true
      · obtain ⟨rfl, rfl⟩ : n = name ∧ s.walk leadsToDirectory (here ++ [n]) inner = found := by
          simpa [henters] using h
        exact ⟨inner, hmem, henters, rfl⟩
      · simp [henters] at h
    | file bytes => simp at h
    | link target => simp at h
  · rintro ⟨inner, hmem, henters, rfl⟩
    exact ⟨(name, .directory inner), hmem, by simp [henters]⟩

theorem mem_filesHere {here : List String} {es : List (String × Entry)} {r : Found} :
    r ∈ s.filesHere leadsToDirectory here es ↔
      ∃ name e, (name, e) ∈ es ∧ e.isDirectory = false ∧
        (∀ target, e = .link target → leadsToDirectory (here ++ [name]) = false) ∧
        s.wants here name = true ∧ r = here ++ [name] := by
  simp only [filesHere, List.mem_map, List.mem_filter, mem_sortByName, List.mem_filterMap]
  constructor
  · rintro ⟨⟨name, _⟩, ⟨⟨⟨n, e⟩, hmem, h⟩, hwants⟩, rfl⟩
    cases e with
    | directory inner => simp at h
    | file bytes =>
      obtain rfl : n = name := by simpa using h
      exact ⟨n, _, hmem, rfl, by simp, hwants, rfl⟩
    | link target =>
      obtain ⟨hlead, rfl⟩ : leadsToDirectory (here ++ [n]) = false ∧ n = name := by simpa using h
      exact ⟨n, _, hmem, rfl, fun _ _ => hlead, hwants, rfl⟩
  · rintro ⟨name, e, hmem, hfile, hlead, hwants, rfl⟩
    refine ⟨(name, ()), ⟨⟨(name, e), hmem, ?_⟩, hwants⟩, rfl⟩
    cases e with
    | directory inner => cases hfile
    | file bytes => rfl
    | link target => simp [hlead target rfl]

theorem mem_walk_iff {here : List String} {es : List (String × Entry)} {r : Found} :
    r ∈ s.walk leadsToDirectory here es ↔
      r ∈ s.filesHere leadsToDirectory here es ∨
        ∃ name inner, (name, .directory inner) ∈ es ∧ s.enters here name = true ∧
          r ∈ s.walk leadsToDirectory (here ++ [name]) inner := by
  rw [walk, List.mem_append, List.mem_flatMap]
  refine or_congr_right ⟨?_, ?_⟩
  · rintro ⟨⟨name, found⟩, hmem, hr⟩
    obtain ⟨inner, hdir, henters, rfl⟩ :=
      (s.mem_below leadsToDirectory).mp (mem_sortByName.mp hmem)
    exact ⟨name, inner, hdir, henters, hr⟩
  · rintro ⟨name, inner, hdir, henters, hr⟩
    refine ⟨(name, _), mem_sortByName.mpr ?_, hr⟩
    exact (s.mem_below leadsToDirectory).mpr ⟨inner, hdir, henters, rfl⟩

/-! ## The paths that a walk should find -/

/-- The path `r` below the directory `here`, whose entries are `es`, is one to be
found: real directories lead to an entry that is none and leads to none, all of
them are entered, and the file is of interest. -/
structure Walked (here : List String) (es : List (String × Entry)) (r : List String) : Prop where
  entry : ∃ e, Disk.entryIn? es r = some e ∧ e.isDirectory = false ∧
    ∀ target, e = .link target → leadsToDirectory (here ++ r) = false
  entered : ∀ above name rest, r = above ++ name :: rest → rest ≠ [] →
    s.enters (here ++ above) name = true
  wanted : ∀ above name, r = above ++ [name] → s.wants (here ++ above) name = true

variable {s leadsToDirectory} {here : List String} {es : List (String × Entry)} {name : String}

theorem Walked.ne_nil {r : List String} (h : s.Walked leadsToDirectory here es r) : r ≠ [] := by
  rintro rfl
  obtain ⟨e, he, hfile, -⟩ := h.entry
  obtain rfl : Entry.directory es = e := by simpa [Disk.entryIn?] using he
  cases hfile

theorem walked_file :
    s.Walked leadsToDirectory here es [name] ↔
      (∃ e, es.lookup name = some e ∧ e.isDirectory = false ∧
        ∀ target, e = .link target → leadsToDirectory (here ++ [name]) = false) ∧
      s.wants here name = true := by
  constructor
  · intro h
    exact ⟨h.entry, by simpa using h.wanted [] name rfl⟩
  · rintro ⟨hentry, hwants⟩
    refine ⟨hentry, ?_, ?_⟩
    · intro above d rest h hrest
      cases above with
      | nil => exact absurd (List.cons.inj h).2.symm hrest
      | cons a above => simp at h
    · intro above n h
      cases above with
      | nil => simpa [← (List.cons.inj h).1] using hwants
      | cons a above => simp at h

theorem walked_inside {rest : List String} (hrest : rest ≠ []) :
    s.Walked leadsToDirectory here es (name :: rest) ↔
      ∃ inner, es.lookup name = some (.directory inner) ∧ s.enters here name = true ∧
        s.Walked leadsToDirectory (here ++ [name]) inner rest := by
  constructor
  · intro h
    obtain ⟨e, he, hfile, hlead⟩ := h.entry
    obtain ⟨inner, hlookup, hinner⟩ := (entryIn?_cons hrest).mp he
    refine ⟨inner, hlookup, by simpa using h.entered [] name rest rfl hrest,
      ⟨e, hinner, hfile, by simpa using hlead⟩, ?_, ?_⟩
    · rintro above d more rfl hmore
      simpa using h.entered (name :: above) d more rfl hmore
    · rintro above f rfl
      simpa using h.wanted (name :: above) f rfl
  · rintro ⟨inner, hlookup, henters, h⟩
    obtain ⟨e, hinner, hfile, hlead⟩ := h.entry
    refine ⟨⟨e, (entryIn?_cons hrest).mpr ⟨inner, hlookup, hinner⟩, hfile, by simpa using hlead⟩,
      ?_, ?_⟩
    · intro above d more heq hmore
      cases above with
      | nil => simpa [← (List.cons.inj heq).1] using henters
      | cons a above =>
        obtain ⟨rfl, hsplit⟩ := List.cons.inj heq
        simpa using h.entered above d more hsplit hmore
    · intro above f heq
      cases above with
      | nil => exact absurd (List.cons.inj heq).2 hrest
      | cons a above =>
        obtain ⟨rfl, hsplit⟩ := List.cons.inj heq
        simpa using h.wanted above f hsplit

/-- **The walk finds what it should**, and nothing else. -/
theorem mem_walk (h : WellNamed es) (here : List String) (r : Found) :
    r ∈ s.walk leadsToDirectory here es ↔
      ∃ rest, r = here ++ rest ∧ s.Walked leadsToDirectory here es rest := by
  induction h generalizing here r with
  | @intro es distinct plain inner ih =>
    rw [mem_walk_iff, mem_filesHere]
    constructor
    · rintro (⟨name, e, hmem, hfile, hlead, hwants, rfl⟩ | ⟨name, below, hdir, henters, hr⟩)
      · have hlookup := (lookup_eq_some_iff distinct).mpr hmem
        exact ⟨[name], rfl, walked_file.mpr ⟨⟨e, hlookup, hfile, hlead⟩, hwants⟩⟩
      · obtain ⟨rest, rfl, hrest⟩ := (ih name below hdir (here ++ [name]) r).mp hr
        have hlookup := (lookup_eq_some_iff distinct).mpr hdir
        exact ⟨name :: rest, by simp,
          (walked_inside hrest.ne_nil).mpr ⟨below, hlookup, henters, hrest⟩⟩
    · rintro ⟨rest, rfl, hrest⟩
      match rest, hrest with
      | [], hrest => exact absurd rfl hrest.ne_nil
      | [name], hrest =>
        obtain ⟨⟨e, hlookup, hfile, hlead⟩, hwants⟩ := walked_file.mp hrest
        have hmem := (lookup_eq_some_iff distinct).mp hlookup
        exact Or.inl ⟨name, e, hmem, hfile, hlead, hwants, rfl⟩
      | name :: next :: more, hrest =>
        obtain ⟨below, hlookup, henters, hmore⟩ := (walked_inside (List.cons_ne_nil _ _)).mp hrest
        have hdir := (lookup_eq_some_iff distinct).mp hlookup
        refine Or.inr ⟨name, below, hdir, henters, ?_⟩
        exact (ih name below hdir _ _).mpr ⟨next :: more, by simp, hmore⟩

/-! ## The order of the walk -/

theorem filesHere_sorted (h : (es.map (·.1)).Nodup) :
    (s.filesHere leadsToDirectory here es).Pairwise Before := by
  refine List.pairwise_map.mpr (List.Pairwise.filter _ ?_)
  refine (sortByName_pairwise (h.sublist (map_fst_filterMap_sublist ?_ es))).imp ?_
  · rintro ⟨name, e⟩ y hy
    cases e with
    | directory inner => simp at hy
    | file bytes => simp [← Option.some.inj hy]
    | link target =>
      obtain ⟨-, rfl⟩ : leadsToDirectory (here ++ [name]) = false ∧ (name, ()) = y := by
        simpa using hy
      rfl
  · exact fun hlt => (Before.files hlt).under here

theorem below_sorted (h : (es.map (·.1)).Nodup) :
    (sortByName (s.below leadsToDirectory here es)).Pairwise (fun a b => a.1 < b.1) := by
  rw [below_eq]
  refine sortByName_pairwise (h.sublist (map_fst_filterMap_sublist ?_ es))
  rintro ⟨name, e⟩ y hy
  cases e with
  | directory inner =>
    obtain ⟨-, rfl⟩ : s.enters here name = true ∧ (name, _) = y := by simpa using hy
    rfl
  | file bytes => simp at hy
  | link target => simp at hy

theorem mem_walk_inside (h : WellNamed es) {r : Found}
    (hr : r ∈ s.walk leadsToDirectory (here ++ [name]) es) :
    ∃ rest, rest ≠ [] ∧ r = here ++ name :: rest := by
  obtain ⟨rest, rfl, hrest⟩ := (mem_walk h _ r).mp hr
  exact ⟨rest, hrest.ne_nil, by simp⟩

/-- **The walk keeps its order**: the files of a directory by name, then those of
its directories, by name. -/
theorem walk_sorted (h : WellNamed es) (here : List String) :
    (s.walk leadsToDirectory here es).Pairwise Before := by
  induction h generalizing here with
  | @intro es distinct plain inner ih =>
    have hgroup : ∀ name found, (name, found) ∈ sortByName (s.below leadsToDirectory here es) →
        found.Pairwise Before ∧ ∀ r ∈ found, ∃ rest, rest ≠ [] ∧ r = here ++ name :: rest := by
      intro name found hmem
      obtain ⟨below, hdir, -, rfl⟩ := (s.mem_below leadsToDirectory).mp (mem_sortByName.mp hmem)
      exact ⟨ih name below hdir _, fun r hr => mem_walk_inside (inner name below hdir) hr⟩
    rw [walk, List.pairwise_append, List.pairwise_flatMap]
    refine ⟨filesHere_sorted distinct, ⟨fun x hx => (hgroup x.1 x.2 hx).1, ?_⟩, ?_⟩
    · refine (below_sorted distinct).imp_of_mem fun {x y} hx hy hlt r hr r' hr' => ?_
      obtain ⟨rest, hrest, rfl⟩ := (hgroup x.1 x.2 hx).2 r hr
      obtain ⟨rest', hrest', rfl⟩ := (hgroup y.1 y.2 hy).2 r' hr'
      exact (Before.directories hrest hrest' hlt).under here
    · intro r hr r' hr'
      obtain ⟨f, -, -, -, -, -, rfl⟩ := (s.mem_filesHere leadsToDirectory).mp hr
      obtain ⟨x, hx, hmem⟩ := List.mem_flatMap.mp hr'
      obtain ⟨rest, hrest, rfl⟩ := (hgroup x.1 x.2 hx).2 r' hmem
      exact (Before.fileFirst hrest).under here

end Scanner

end SiteAudit.Scan
