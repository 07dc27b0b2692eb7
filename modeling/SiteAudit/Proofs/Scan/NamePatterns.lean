import Mathlib.Data.List.Basic
import SiteAudit.Proofs.Scan.Walk

/-!
# Exclusions by name

A line without a slash in front or inside is meant for names: it should leave out
a path exactly if it leaves out the last part of the path alone. Two things get
in the way. A star, a question mark and some sets match a slash too, so a glob
may match a path across several of its parts; and the search for a part at which
the glob may begin does not go past a line feed.

* `Glob.accepts_iff`: what a glob matches, by rules.
* `Glob.Matches.nameOf`, `Glob.exists_crossing`: a glob stays within names exactly
  if nothing but stars at its front can match a slash.
* `exclusion_by_name`: how far a line without a slash goes by names alone.
* `name_pattern_leaves_name`: two paths that it gets wrong.
-/
namespace SiteAudit.Scan

open Text

/-! ## The last part of a path -/

/-- The last part of a path: what stands behind its last slash. -/
def nameOf (path : List Char) : List Char := (path.reverse.takeWhile (· != '/')).reverse

/-- The directories of a path, with the slash behind each. -/
def directoriesOf (path : List Char) : List Char := (path.reverse.dropWhile (· != '/')).reverse

theorem directoriesOf_append_nameOf (path : List Char) :
    directoriesOf path ++ nameOf path = path := by
  rw [directoriesOf, nameOf, ← List.reverse_append, List.takeWhile_append_dropWhile,
    List.reverse_reverse]

theorem slash_not_mem_nameOf (path : List Char) : '/' ∉ nameOf path := by
  intro h
  simpa using List.all_eq_true.mp List.all_takeWhile _ (List.mem_reverse.mp h)

theorem nameOf_append {t : List Char} (h : '/' ∉ t) (u : List Char) :
    nameOf (u ++ t) = nameOf u ++ t := by
  have hall : ∀ c ∈ t.reverse, (c != '/') = true := by
    intro c hc
    refine bne_iff_ne.mpr ?_
    rintro rfl
    exact h (List.mem_reverse.mp hc)
  rw [nameOf, List.reverse_append, List.takeWhile_append_of_pos hall, List.reverse_append,
    List.reverse_reverse, nameOf]

theorem nameOf_eq_self {path : List Char} (h : '/' ∉ path) : nameOf path = path :=
  nameOf_append h []

@[simp] theorem nameOf_behind_slash (u t : List Char) : nameOf (u ++ '/' :: t) = nameOf t := by
  have htake : (t.reverse ++ '/' :: u.reverse).takeWhile (· != '/') =
      t.reverse.takeWhile (· != '/') := by
    rw [List.takeWhile_append]
    split
    · rename_i hall
      rw [List.takeWhile_cons_of_neg (by simp), List.append_nil]
      exact ((List.takeWhile_prefix _).eq_of_length hall).symm
    · rfl
  simp [nameOf, htake]

theorem directoriesOf_behind_slash {t : List Char} (h : '/' ∉ t) (u : List Char) :
    directoriesOf (u ++ '/' :: t) = u ++ ['/'] := by
  have hsplit := directoriesOf_append_nameOf (u ++ '/' :: t)
  rw [nameOf_behind_slash, nameOf_eq_self h] at hsplit
  exact List.append_cancel_right (hsplit.trans (by simp))

theorem directoriesOf_eq_nil {path : List Char} (h : '/' ∉ path) : directoriesOf path = [] := by
  have hsplit := directoriesOf_append_nameOf path
  rw [nameOf_eq_self h] at hsplit
  exact List.append_left_eq_self.mp hsplit

theorem nameOf_append_suffix (u t : List Char) : nameOf t <:+ nameOf (u ++ t) := by
  by_cases h : '/' ∈ t
  · obtain ⟨above, below, rfl⟩ := List.append_of_mem h
    have hsame : nameOf (u ++ (above ++ '/' :: below)) = nameOf (above ++ '/' :: below) := by
      rw [← List.append_assoc, nameOf_behind_slash, nameOf_behind_slash]
    exact hsame ▸ List.suffix_refl _
  · rw [nameOf_append h, nameOf_eq_self h]
    exact List.suffix_append ..

theorem length_nameOf_le (path : List Char) : (nameOf path).length ≤ path.length := by
  have := congrArg List.length (directoriesOf_append_nameOf path)
  rw [List.length_append] at this
  omega

theorem directories_cases (path : List Char) :
    directoriesOf path = [] ∨ ∃ above, directoriesOf path = above ++ ['/'] := by
  unfold directoriesOf
  cases h : path.reverse.dropWhile (· != '/') with
  | nil => exact Or.inl rfl
  | cons c more =>
    have hc := List.head?_dropWhile_not (· != '/') path.reverse
    rw [h] at hc
    obtain rfl : c = '/' := by simpa using hc
    exact Or.inr ⟨more.reverse, by simp⟩

/-! ## What a glob matches -/

/-- The texts that a glob matches. -/
inductive Glob.Matches : Glob → List Char → Prop
  | nil : Matches [] []
  | one {item : GlobItem} {g : Glob} {c : Char} {s : List Char} :
      Glob.matchesOne c item = true → Matches g s → Matches (item :: g) (c :: s)
  | run {g : Glob} (skipped : List Char) {s : List Char} :
      Matches g s → Matches (.anyRun :: g) (skipped ++ s)

namespace Glob

theorem mem_tails {s t : List Char} : t ∈ tails s ↔ t <:+ s := by
  induction s with
  | nil => simp [tails]
  | cons c r ih => simp [tails, List.suffix_cons_iff, ih]

theorem accepts_one {item : GlobItem} (h : item ≠ .anyRun) (g : Glob) (s : List Char) :
    accepts (item :: g) s = true ↔
      ∃ c r, s = c :: r ∧ matchesOne c item = true ∧ g.accepts r = true := by
  cases s with
  | nil => cases item <;> simp_all [accepts]
  | cons c r => cases item <;> simp_all [accepts]

theorem accepts_iff {g : Glob} {s : List Char} : g.accepts s = true ↔ g.Matches s := by
  induction g generalizing s with
  | nil =>
    constructor
    · intro h
      obtain rfl : s = [] := by simpa [accepts] using h
      exact .nil
    · rintro ⟨⟩
      rfl
  | cons item g ih =>
    by_cases hrun : item = .anyRun
    · subst hrun
      simp only [accepts, List.any_eq_true, mem_tails, ih]
      constructor
      · rintro ⟨t, ⟨skipped, rfl⟩, ht⟩
        exact .run skipped ht
      · rintro (_ | ⟨hone, -⟩ | ⟨skipped, ht⟩)
        · cases hone
        · exact ⟨_, List.suffix_append .., ht⟩
    · rw [accepts_one hrun]
      constructor
      · rintro ⟨c, r, rfl, hone, hmore⟩
        exact .one hone (ih.mp hmore)
      · rintro (_ | ⟨hone, hmore⟩ | _)
        · exact ⟨_, _, rfl, hone, ih.mpr hmore⟩
        · exact absurd rfl hrun

theorem Matches.append {g h : Glob} {s t : List Char} (hs : Matches g s) (ht : Matches h t) :
    Matches (g ++ h) (s ++ t) := by
  induction hs with
  | nil => exact ht
  | one hone _ ih => exact .one hone ih
  | run skipped _ ih =>
    rw [List.append_assoc]
    exact .run skipped ih

theorem Matches.split {g h : Glob} {s : List Char} (hs : Matches (g ++ h) s) :
    ∃ t u, Matches g t ∧ Matches h u := by
  induction g generalizing s with
  | nil => exact ⟨[], s, .nil, hs⟩
  | cons item g ih =>
    rcases hs with _ | ⟨hone, hmore⟩ | ⟨skipped, hmore⟩
    · obtain ⟨t, u, ht, hu⟩ := ih hmore
      exact ⟨_, u, .one hone ht, hu⟩
    · obtain ⟨t, u, ht, hu⟩ := ih hmore
      exact ⟨_, u, .run skipped ht, hu⟩

/-- How many characters a glob matches at least: its items but for the stars. -/
def leastLength (g : Glob) : Nat := g.countP (· != .anyRun)

theorem matchesOne_ne {c : Char} {item : GlobItem} (h : matchesOne c item = true) :
    item ≠ .anyRun := by
  rintro rfl
  cases h

theorem Matches.leastLength_le {g : Glob} {s : List Char} (h : Matches g s) :
    g.leastLength ≤ s.length := by
  induction h with
  | nil => exact Nat.le_refl 0
  | one hone _ ih => simpa [leastLength, matchesOne_ne hone] using ih
  | run skipped _ ih =>
    simp only [leastLength, List.countP_cons, List.length_append] at ih ⊢
    simp
    omega

theorem Matches.shortest {g : Glob} {s : List Char} (h : Matches g s) :
    ∃ t, Matches g t ∧ t.length = g.leastLength := by
  induction h with
  | nil => exact ⟨[], .nil, rfl⟩
  | one hone _ ih =>
    obtain ⟨t, ht, hlength⟩ := ih
    exact ⟨_, .one hone ht, by simpa [leastLength, matchesOne_ne hone] using hlength⟩
  | run skipped _ ih =>
    obtain ⟨t, ht, hlength⟩ := ih
    exact ⟨t, .run [] ht, by simpa [leastLength] using hlength⟩

end Glob

/-! ## Globs that stay within names -/

/-- Whether an item can match a slash. -/
def GlobItem.takesSlash (item : GlobItem) : Bool :=
  item == .anyRun || Glob.matchesOne '/' item

/-- Behind the stars at its front, no item of the glob can match a slash. -/
def Glob.Confined (g : Glob) : Prop :=
  ∀ item ∈ g.dropWhile (· == .anyRun), item.takesSlash = false

instance (g : Glob) : Decidable g.Confined :=
  inferInstanceAs (Decidable (∀ item ∈ g.dropWhile (· == .anyRun), item.takesSlash = false))

namespace Glob

theorem Matches.more {g : Glob} {s : List Char} (h : Matches (.anyRun :: g) s) (u : List Char) :
    Matches (.anyRun :: g) (u ++ s) := by
  rcases h with _ | ⟨hone, -⟩ | ⟨skipped, hmore⟩
  · cases hone
  · rw [← List.append_assoc]
    exact .run (u ++ skipped) hmore

theorem Matches.slash_not_mem {g : Glob} {s : List Char} (h : Matches g s)
    (hitems : ∀ item ∈ g, item.takesSlash = false) : '/' ∉ s := by
  induction h with
  | nil => simp
  | @one item g c s hone _ ih =>
    obtain ⟨hitem, hmore⟩ := List.forall_mem_cons.mp hitems
    have hc : c ≠ '/' := by
      rintro rfl
      simp [GlobItem.takesSlash, hone] at hitem
    simpa [hc.symm] using ih hmore
  | run skipped _ ih => exact absurd (hitems _ (List.mem_cons_self ..)) (by decide)

theorem Confined.all {g : Glob} (h : Confined g) (hfront : g.head? ≠ some .anyRun) :
    ∀ item ∈ g, item.takesSlash = false := by
  have hkeep : g.dropWhile (· == .anyRun) = g := by
    cases g with
    | nil => rfl
    | cons item g => exact List.dropWhile_cons_of_neg (by simpa using hfront)
  rwa [Confined, hkeep] at h

/-- **A confined glob** that matches a path matches its last part. The stars at
its front match any directories, and what is behind them lies in the last part. -/
theorem Matches.nameOf {g : Glob} (hconfined : g.Confined) {s : List Char} (h : Matches g s) :
    Matches g (nameOf s) := by
  induction g generalizing s with
  | nil =>
    cases h
    exact .nil
  | cons item g ih =>
    by_cases hrun : item = .anyRun
    · subst hrun
      have hrest : Confined g := by simpa [Confined] using hconfined
      rcases h with _ | ⟨hone, -⟩ | ⟨skipped, hmore⟩
      · cases hone
      · obtain ⟨front, hfront⟩ := nameOf_append_suffix skipped _
        rw [← hfront]
        exact .run front (ih hrest hmore)
    · rwa [nameOf_eq_self (h.slash_not_mem (hconfined.all (by simpa using hrun)))]

theorem matches_slash {item : GlobItem} (h : item.takesSlash = true) : Matches [item] ['/'] := by
  by_cases hrun : item = .anyRun
  · subst hrun
    exact .run ['/'] .nil
  · exact .one (by simpa [GlobItem.takesSlash, hrun] using h) .nil

/-- A glob that is not confined has an item that can match a slash, at which or in
front of which an item takes a character of its own. -/
theorem exists_crossing_item {g : Glob} (h : ¬Confined g) :
    ∃ before item after, g = before ++ item :: after ∧ item.takesSlash = true ∧
      leastLength after < leastLength g := by
  obtain ⟨item, hmem, htakes⟩ : ∃ item ∈ g.dropWhile (· == .anyRun), item.takesSlash = true := by
    simpa [Confined] using h
  obtain ⟨between, after, hcore⟩ := List.append_of_mem hmem
  -- the first item behind the stars is no star
  obtain ⟨first, hfirst, hone⟩ : ∃ first ∈ between ++ [item], first ≠ .anyRun := by
    have hhead := List.head?_dropWhile_not (· == GlobItem.anyRun) g
    rw [hcore] at hhead
    cases between with
    | nil => exact ⟨item, by simp, by simpa using hhead⟩
    | cons first more => exact ⟨first, by simp, by simpa using hhead⟩
  have hsplit : g = g.takeWhile (· == .anyRun) ++ between ++ item :: after := by
    rw [List.append_assoc, ← hcore, List.takeWhile_append_dropWhile]
  refine ⟨_, item, after, hsplit, htakes, ?_⟩
  have hpos : 0 < leastLength (between ++ [item]) :=
    List.countP_pos_iff.mpr ⟨first, hfirst, by simpa using hone⟩
  have hsum : leastLength g = leastLength (g.takeWhile (· == .anyRun)) +
      leastLength (between ++ [item]) + leastLength after := by
    conv_lhs => rw [hsplit]
    simp [leastLength, List.countP_append, List.countP_cons]
    omega
  omega

/-- **A glob that is not confined** matches a path across its parts, and not its
last part: that part is too short for the glob. -/
theorem exists_crossing {g : Glob} (hcross : ¬Confined g) {s : List Char} (h : Matches g s) :
    ∃ path, Matches g path ∧ ¬Matches g (Scan.nameOf path) := by
  obtain ⟨before, item, after, rfl, htakes, hshort⟩ := exists_crossing_item hcross
  obtain ⟨t, u, ht, hu⟩ := h.split
  have hafter : ∃ v, Matches after v := by
    obtain ⟨_, v, -, hv⟩ := Matches.split (g := [item]) hu
    exact ⟨v, hv⟩
  obtain ⟨v, hv⟩ := hafter
  obtain ⟨last, hlast, hlength⟩ := hv.shortest
  refine ⟨t ++ '/' :: last, ht.append ((matches_slash htakes).append hlast), fun hname => ?_⟩
  have hleast := hname.leastLength_le
  have hle := length_nameOf_le last
  rw [nameOf_behind_slash] at hleast
  omega

end Glob

/-! ## Exclusions by name -/

/-- A line whose pattern has no slash in front or inside; slashes at its end do not
count. -/
def NamesOnly (line : List Char) : Prop :=
  '/' ∉ trimEndBy (· == '/') (trimStartBy (· == '!') (trim line))

instance (line : List Char) : Decidable (NamesOnly line) :=
  inferInstanceAs (Decidable ('/' ∉ trimEndBy (· == '/') (trimStartBy (· == '!') (trim line))))

theorem NamesOnly.anyDepth {line : List Char} (h : NamesOnly line) {e : Exclusion}
    (he : Exclusion.ofLine? line = some e) : e.anyDepth = true := by
  unfold Exclusion.ofLine? at he
  dsimp only at he
  split at he
  · cases he
  · split at he
    · cases he
    · rw [← Option.some.inj he]
      simpa [NamesOnly] using h

/-- The search for slashes stops at the first line feed. -/
theorem mem_behindSlashes {path t : List Char} :
    t ∈ behindSlashes path ↔ ∃ above, path = above ++ '/' :: t ∧ '\n' ∉ above := by
  induction path with
  | nil => simp [behindSlashes]
  | cons c r ih =>
    have hcons : (∃ above, c :: r = above ++ '/' :: t ∧ '\n' ∉ above) ↔
        c = '/' ∧ r = t ∨ c ≠ '\n' ∧ ∃ above, r = above ++ '/' :: t ∧ '\n' ∉ above := by
      constructor
      · rintro ⟨above, h, hline⟩
        cases above with
        | nil => exact Or.inl (List.cons.inj h)
        | cons d above =>
          obtain ⟨rfl, rfl⟩ := List.cons.inj h
          simp only [List.mem_cons, not_or] at hline
          exact Or.inr ⟨Ne.symm hline.1, above, rfl, hline.2⟩
      · rintro (⟨rfl, rfl⟩ | ⟨hc, above, rfl, hline⟩)
        · exact ⟨[], rfl, by simp⟩
        · exact ⟨c :: above, rfl, by simp [Ne.symm hc, hline]⟩
    rw [hcons, ← ih, behindSlashes]
    by_cases hline : c = '\n'
    · simp [hline]
    · by_cases hslash : c = '/'
      · simp [hslash, eq_comm]
      · simp [hline, hslash]

/-- An exclusion by name matches a whole path, or what is left of it behind
directories without a line feed. -/
theorem Exclusion.accepts_iff {e : Exclusion} (h : e.anyDepth = true) {path : List Char} :
    e.accepts path = true ↔ e.glob.Matches path ∨
      ∃ above t, path = above ++ '/' :: t ∧ '\n' ∉ above ∧ e.glob.Matches t := by
  simp only [Exclusion.accepts, h, Bool.true_and, Bool.or_eq_true, List.any_eq_true,
    mem_behindSlashes, Glob.accepts_iff]
  refine or_congr_right ⟨?_, ?_⟩
  · rintro ⟨t, ⟨above, hpath, hline⟩, ht⟩
    exact ⟨above, t, hpath, hline, ht⟩
  · rintro ⟨above, t, hpath, hline, ht⟩
    exact ⟨t, ⟨above, hpath, hline⟩, ht⟩

section

variable {e : Exclusion} (h : e.anyDepth = true)
include h

theorem Exclusion.accepts_nameOf_iff {path : List Char} :
    e.accepts (nameOf path) = true ↔ e.glob.Matches (nameOf path) := by
  rw [Exclusion.accepts_iff h]
  refine or_iff_left ?_
  rintro ⟨above, t, hname, -, -⟩
  exact slash_not_mem_nameOf path (by simp [hname])

/-- A matched path has a matched name exactly where the glob stays within names,
or where it matches nothing at all. -/
theorem Exclusion.name_of_path_iff :
    (∀ path, e.accepts path = true → e.accepts (nameOf path) = true) ↔
      e.glob.Confined ∨ ∀ s, ¬e.glob.Matches s := by
  constructor
  · intro hall
    refine Classical.or_iff_not_imp_left.mpr fun hcross s hs => ?_
    obtain ⟨path, hpath, hname⟩ := Glob.exists_crossing hcross hs
    exact hname ((accepts_nameOf_iff h).mp (hall path ((accepts_iff h).mpr (Or.inl hpath))))
  · intro hglob path hpath
    rw [accepts_nameOf_iff h]
    obtain ⟨u, t, rfl, ht⟩ : ∃ u t, path = u ++ t ∧ e.glob.Matches t ∧ nameOf path = nameOf t := by
      rcases (accepts_iff h).mp hpath with hwhole | ⟨above, t, rfl, -, ht⟩
      · exact ⟨[], path, rfl, hwhole, rfl⟩
      · exact ⟨above ++ ['/'], t, by simp, ht, nameOf_behind_slash above t⟩
    rw [ht.2]
    exact ht.1.nameOf (hglob.resolve_right fun hnone => hnone t ht.1)

/-- Below directories without a line feed a matched name is found. -/
theorem Exclusion.path_of_name {path : List Char} (hline : '\n' ∉ directoriesOf path)
    (hname : e.accepts (nameOf path) = true) : e.accepts path = true := by
  rw [accepts_nameOf_iff h] at hname
  rw [accepts_iff h]
  have hsplit := directoriesOf_append_nameOf path
  rcases directories_cases path with hnone | ⟨above, habove⟩
  · rw [hnone, List.nil_append] at hsplit
    exact Or.inl (hsplit ▸ hname)
  · rw [habove, List.append_assoc] at hsplit
    refine Or.inr ⟨above, nameOf path, hsplit.symm, ?_, hname⟩
    intro hmem
    exact hline (by simp [habove, hmem])

/-- Where the glob stays within names, a path is matched by its name, except behind
a line feed: there only a star in front finds it. -/
theorem Exclusion.accepts_confined (hconfined : e.glob.Confined) (path : List Char) :
    e.accepts path = true ↔ e.accepts (nameOf path) = true ∧
      ('\n' ∉ directoriesOf path ∨ e.glob.head? = some .anyRun) := by
  constructor
  · intro hpath
    refine ⟨(name_of_path_iff h).mpr (Or.inl hconfined) path hpath, ?_⟩
    refine Classical.or_iff_not_imp_right.mpr fun hfront => ?_
    have hitems := hconfined.all hfront
    rcases (accepts_iff h).mp hpath with hwhole | ⟨above, t, rfl, hline, ht⟩
    · simp [directoriesOf_eq_nil (hwhole.slash_not_mem hitems)]
    · simpa [directoriesOf_behind_slash (ht.slash_not_mem hitems)] using hline
  · rintro ⟨hname, hline | hfront⟩
    · exact path_of_name h hline hname
    · obtain ⟨g, hg⟩ : ∃ g, e.glob = .anyRun :: g := by
        cases hglob : e.glob with
        | nil => simp [hglob] at hfront
        | cons item g => exact ⟨g, by simpa [hglob] using hfront⟩
      rw [accepts_nameOf_iff h, hg] at hname
      have hmore := hname.more (directoriesOf path)
      rw [directoriesOf_append_nameOf, ← hg] at hmore
      exact (accepts_iff h).mpr (Or.inl hmore)

end

/-- **How far a line without a slash goes by names.** A path that it leaves out
has a name that it leaves out, for all paths, exactly if nothing but stars at the
front of its glob can match a slash, or if the glob matches nothing. A name that
it leaves out is left out below all directories whose names hold no line feed.
So with such a glob, and without line feeds or with a star in front, a path is
left out exactly if its name is. -/
theorem exclusion_by_name {line : List Char} {e : Exclusion} (hline : NamesOnly line)
    (he : Exclusion.ofLine? line = some e) :
    ((∀ path, e.accepts path = true → e.accepts (nameOf path) = true) ↔
      e.glob.Confined ∨ ∀ s, ¬e.glob.Matches s) ∧
    (∀ path, '\n' ∉ directoriesOf path → e.accepts (nameOf path) = true →
      e.accepts path = true) ∧
    (e.glob.Confined → ∀ path, e.accepts path = true ↔ e.accepts (nameOf path) = true ∧
      ('\n' ∉ directoriesOf path ∨ e.glob.head? = some .anyRun)) := by
  have hdepth := hline.anyDepth he
  exact ⟨Exclusion.name_of_path_iff hdepth, fun path => Exclusion.path_of_name hdepth,
    fun hconfined path => Exclusion.accepts_confined hdepth hconfined path⟩

theorem ending_excluded_by_name :
    ∃ e, NamesOnly "*.min.js".toList ∧ Exclusion.ofLine? "*.min.js".toList = some e ∧
      e.glob.Confined ∧ ∀ path, e.accepts path = true ↔ e.accepts (nameOf path) = true := by
  have hline : NamesOnly "*.min.js".toList := by decide
  have he : Exclusion.ofLine? "*.min.js".toList = some {
      glob := .anyRun :: ".min.js".toList.map .char
      anyDepth := true, directoryOnly := false, reinclude := false } := by decide
  obtain ⟨-, -, hexact⟩ := exclusion_by_name hline he
  refine ⟨_, hline, he, by decide, fun path => ?_⟩
  exact (hexact (by decide) path).trans (and_iff_left (Or.inr rfl))

/-- **Names are not all that counts.** The star of `test*.js` reaches from the name
of a directory into that of a file, which alone would not be left out; and
`app.js` is not found below a directory with a line feed in its name. -/
theorem name_pattern_leaves_name :
    (∃ e, NamesOnly "test*.js".toList ∧ Exclusion.ofLine? "test*.js".toList = some e ∧
      e.accepts "tests/app.js".toList = true ∧
      e.accepts (nameOf "tests/app.js".toList) = false) ∧
    (∃ e, NamesOnly "app.js".toList ∧ Exclusion.ofLine? "app.js".toList = some e ∧
      e.accepts "a\nb/app.js".toList = false ∧
      e.accepts (nameOf "a\nb/app.js".toList) = true) :=
  ⟨⟨⟨"test".toList.map .char ++ .anyRun :: ".js".toList.map .char, true, false, false⟩,
      by decide, by decide, by decide, by decide⟩,
    ⟨⟨"app.js".toList.map .char, true, false, false⟩,
      by decide, by decide, by decide, by decide⟩⟩

end SiteAudit.Scan
