import Mathlib.Data.List.Basic
import SiteAudit.Proofs.Scan.Listing

/-!
# What one more exclusion does to a scan

A line put behind all other exclusions has the last word on the paths it speaks
about, and says nothing about the others. So a line that leaves paths out makes a
scanner stricter and one that brings paths back makes it milder. The walk of a
stricter scanner goes into fewer directories and takes fewer files in each, so
what it finds is, in the same order, a part of what the milder one finds.

* `isExcluded_snoc`: the verdict with one more exclusion.
* `walk_eq`: a walk, directory by directory, in the order of their names.
* `walk_sublist`: the walk of a stricter scanner.
* `scan_monotone_in_exclusions`: two scans of one tree, the second with one more
  line.
-/
namespace SiteAudit.Scan

open Text

/-! ## One more exclusion -/

theorem isExcluded_snoc (exclusions : List Exclusion) (e : Exclusion) (path : List Char)
    (isDirectory : Bool) :
    isExcluded (exclusions ++ [e]) path isDirectory =
      if e.applies path isDirectory then !e.reinclude
      else isExcluded exclusions path isDirectory := by
  simp [isExcluded]

/-- A line that says something brings paths back if it begins with `!`. -/
theorem reinclude_of_ofLine? {line : List Char} {e : Exclusion}
    (h : Exclusion.ofLine? line = some e) :
    e.reinclude = true ↔ (trim line).head? = some '!' := by
  unfold Exclusion.ofLine? at h
  dsimp only at h
  split at h
  · cases h
  · split at h
    · cases h
    · rw [← Option.some.inj h]
      simp

theorem ofLine?_eq_none {line : List Char}
    (h : trim line = [] ∨ (trim line).head? = some '#') : Exclusion.ofLine? line = none := by
  unfold Exclusion.ofLine?
  rcases h with h | h <;> simp [h]

/-- `s` looks for the same kinds of files as `t` and leaves out what `t` leaves
out. -/
structure Scanner.Stricter (s t : Scanner) : Prop where
  extensions : s.extensions = t.extensions
  excludes : ∀ path isDirectory, isExcluded t.exclusions path isDirectory = true →
    isExcluded s.exclusions path isDirectory = true

theorem Scanner.Stricter.enters {s t : Scanner} (h : s.Stricter t) {here : List String}
    {name : String} (hs : s.enters here name = true) : t.enters here name = true := by
  simp only [Scanner.enters, Bool.and_eq_true, Bool.not_eq_true'] at hs ⊢
  refine ⟨hs.1, Bool.eq_false_iff.mpr fun ht => ?_⟩
  rw [h.excludes _ _ ht] at hs
  exact Bool.noConfusion hs.2

theorem Scanner.Stricter.wants {s t : Scanner} (h : s.Stricter t) {here : List String}
    {name : String} (hs : s.wants here name = true) : t.wants here name = true := by
  simp only [Scanner.wants, Bool.and_eq_true, Bool.not_eq_true', ← h.extensions] at hs ⊢
  refine ⟨Bool.eq_false_iff.mpr fun ht => ?_, hs.2⟩
  rw [h.excludes _ _ ht] at hs
  exact Bool.noConfusion hs.1

theorem scannerFor_snoc {lines : List (List Char)} (excludePaths : List String) (pattern : String)
    (extensions : List String) :
    (scannerFor lines (excludePaths ++ [pattern]) extensions).exclusions =
      (scannerFor lines excludePaths extensions).exclusions ++
        (Exclusion.ofLine? pattern.toList).toList := by
  cases h : Exclusion.ofLine? pattern.toList <;> simp [scannerFor, exclusionsOf, h]

theorem stricter_of_leavesOut (lines : List (List Char)) (excludePaths : List String)
    {pattern : String} (h : (trim pattern.toList).head? ≠ some '!') (extensions : List String) :
    (scannerFor lines (excludePaths ++ [pattern]) extensions).Stricter
      (scannerFor lines excludePaths extensions) := by
  refine ⟨rfl, fun path isDirectory hout => ?_⟩
  rw [scannerFor_snoc]
  cases he : Exclusion.ofLine? pattern.toList with
  | none => simpa using hout
  | some e =>
    have hleaves : e.reinclude = false :=
      Bool.eq_false_iff.mpr fun ht => h ((reinclude_of_ofLine? he).mp ht)
    rw [Option.toList_some, isExcluded_snoc, hleaves]
    split
    · rfl
    · exact hout

theorem stricter_of_bringsBack (lines : List (List Char)) (excludePaths : List String)
    {pattern : String} (h : (trim pattern.toList).head? = some '!') (extensions : List String) :
    (scannerFor lines excludePaths extensions).Stricter
      (scannerFor lines (excludePaths ++ [pattern]) extensions) := by
  refine ⟨rfl, fun path isDirectory hout => ?_⟩
  rw [scannerFor_snoc] at hout
  cases he : Exclusion.ofLine? pattern.toList with
  | none => simpa [he] using hout
  | some e =>
    rw [he, Option.toList_some, isExcluded_snoc, (reinclude_of_ofLine? he).mpr h] at hout
    split at hout
    · cases hout
    · exact hout

/-! ## A walk in the order of names -/

/-- The first of the things to be sorted goes between those with smaller names and
the others, and so in front of all that have its own name. -/
theorem sortByName_cons {α : Type} (x : String × α) (xs : List (String × α)) :
    ∃ front back, sortByName xs = front ++ back ∧ sortByName (x :: xs) = front ++ x :: back ∧
      (∀ y ∈ front, ¬x.1 ≤ y.1) ∧ ∀ y ∈ back, x.1 ≤ y.1 := by
  have htrans : ∀ a b c : String × α, decide (a.1 ≤ b.1) = true → decide (b.1 ≤ c.1) = true →
      decide (a.1 ≤ c.1) = true := fun a b c hab hbc =>
    decide_eq_true (String.le_trans (of_decide_eq_true hab) (of_decide_eq_true hbc))
  have htotal : ∀ a b : String × α, (decide (a.1 ≤ b.1) || decide (b.1 ≤ a.1)) = true :=
    fun a b => by simp [String.le_total a.1 b.1]
  obtain ⟨front, back, hall, hmore, hfront⟩ := List.mergeSort_cons htrans htotal x xs
  refine ⟨front, back, hmore, hall, fun y hy => by simpa using hfront y hy, fun y hy => ?_⟩
  have hsorted := List.pairwise_mergeSort htrans htotal (x :: xs)
  rw [hall, List.pairwise_append] at hsorted
  exact of_decide_eq_true ((List.pairwise_cons.mp hsorted.2.1).1 y hy)

/-- A list can be cut in one way only into a part without and a part with a
property. -/
theorem append_inj_of_split {α : Type} {q : α → Prop} {front back front' back' : List α}
    (h : front ++ back = front' ++ back') (hfront : ∀ y ∈ front, ¬q y) (hback : ∀ y ∈ back, q y)
    (hfront' : ∀ y ∈ front', ¬q y) (hback' : ∀ y ∈ back', q y) :
    front = front' ∧ back = back' := by
  classical
  have hcut : ∀ a b : List α, (∀ y ∈ a, ¬q y) → (∀ y ∈ b, q y) →
      (a ++ b).filter (fun y => decide (q y)) = b := by
    intro a b ha hb
    rw [List.filter_append, List.filter_eq_nil_iff.mpr (by simpa using ha),
      List.filter_eq_self.mpr (by simpa using hb), List.nil_append]
  have hsame : back = back' := by
    rw [← hcut front back hfront hback, h, hcut front' back' hfront' hback']
  subst hsame
  exact ⟨List.append_cancel_right h, rfl⟩

/-- Sorting by name and leaving some out can be done in either order. -/
theorem sortByName_filter {α : Type} (p : String × α → Bool) (xs : List (String × α)) :
    sortByName (xs.filter p) = (sortByName xs).filter p := by
  induction xs with
  | nil => simp [sortByName]
  | cons x more ih =>
    obtain ⟨front, back, hmore, hall, hfront, hback⟩ := sortByName_cons x more
    rw [hmore, List.filter_append] at ih
    cases hp : p x with
    | false =>
      rw [List.filter_cons_of_neg (by simp [hp]), hall, List.filter_append,
        List.filter_cons_of_neg (by simp [hp]), ih]
    | true =>
      obtain ⟨front', back', hmore', hall', hfront', hback'⟩ := sortByName_cons x (more.filter p)
      obtain ⟨rfl, rfl⟩ : front' = front.filter p ∧ back' = back.filter p :=
        append_inj_of_split (q := fun y : String × α => x.1 ≤ y.1) (hmore'.symm.trans ih)
          hfront' hback' (fun y hy => hfront y (List.mem_of_mem_filter hy))
          (fun y hy => hback y (List.mem_of_mem_filter hy))
      rw [List.filter_cons_of_pos hp, hall', hall, List.filter_append, List.filter_cons_of_pos hp]

theorem sortByName_map {α β : Type} (f : String × α → β) (xs : List (String × α)) :
    sortByName (xs.map fun x => (x.1, f x)) = (sortByName xs).map fun x => (x.1, f x) := by
  refine (List.map_mergeSort (f := fun x : String × α => (x.1, f x)) ?_).symm
  exact fun _ _ _ _ => rfl

def directoriesIn (es : List (String × Entry)) : List (String × List (String × Entry)) :=
  es.filterMap (fun x =>
    match x.2 with
    | .directory inner => some (x.1, inner)
    | _ => none)

theorem mem_directoriesIn {es inner : List (String × Entry)} {name : String} :
    (name, inner) ∈ directoriesIn es ↔ (name, Entry.directory inner) ∈ es := by
  simp only [directoriesIn, List.mem_filterMap]
  constructor
  · rintro ⟨⟨n, e⟩, hmem, h⟩
    cases e with
    | directory below =>
      obtain ⟨rfl, rfl⟩ : n = name ∧ below = inner := by simpa using h
      exact hmem
    | file bytes => cases h
    | link target => cases h
  · exact fun hmem => ⟨(name, .directory inner), hmem, rfl⟩

namespace Scanner

variable (s : Scanner) (leadsToDirectory : List String → Bool)

theorem below_eq_map (here : List String) (es : List (String × Entry)) :
    s.below leadsToDirectory here es =
      ((directoriesIn es).filter (fun d => s.enters here d.1)).map
        (fun d => (d.1, s.walk leadsToDirectory (here ++ [d.1]) d.2)) := by
  rw [below_eq, directoriesIn, List.filter_filterMap, List.map_filterMap]
  congr 1
  funext x
  obtain ⟨name, e⟩ := x
  cases e with
  | directory inner => by_cases h : s.enters here name = true <;> simp [h, Option.filter]
  | file bytes => rfl
  | link target => rfl

theorem walk_eq (here : List String) (es : List (String × Entry)) :
    s.walk leadsToDirectory here es =
      s.filesHere leadsToDirectory here es ++
        ((sortByName (directoriesIn es)).filter (fun d => s.enters here d.1)).flatMap
          (fun d => s.walk leadsToDirectory (here ++ [d.1]) d.2) := by
  rw [walk, below_eq_map, sortByName_map, sortByName_filter, List.flatMap_map]

end Scanner

/-! ## A stricter walk -/

/-- Blocks of fewer things, of which each is a part of the other's. -/
theorem flatMap_filter_sublist {α β : Type} {p q : α → Bool} {f g : α → List β} {xs : List α}
    (hpq : ∀ x ∈ xs, p x = true → q x = true) (hfg : ∀ x ∈ xs, (f x).Sublist (g x)) :
    ((xs.filter p).flatMap f).Sublist ((xs.filter q).flatMap g) := by
  induction xs with
  | nil => exact .slnil
  | cons x more ih =>
    obtain ⟨hx, hmore⟩ := List.forall_mem_cons.mp hpq
    obtain ⟨hblock, hblocks⟩ := List.forall_mem_cons.mp hfg
    have hrest := ih hmore hblocks
    cases hp : p x with
    | true =>
      rw [List.filter_cons_of_pos hp, List.filter_cons_of_pos (hx hp), List.flatMap_cons,
        List.flatMap_cons]
      exact hblock.append hrest
    | false =>
      rw [List.filter_cons_of_neg (by simp [hp])]
      cases hq : q x with
      | true =>
        rw [List.filter_cons_of_pos hq, List.flatMap_cons]
        exact hrest.trans (List.sublist_append_right ..)
      | false =>
        rw [List.filter_cons_of_neg (by simp [hq])]
        exact hrest

namespace Scanner

variable {s t : Scanner}

theorem Stricter.filesHere_sublist (h : s.Stricter t) (leadsToDirectory : List String → Bool)
    (here : List String) (es : List (String × Entry)) :
    (s.filesHere leadsToDirectory here es).Sublist (t.filesHere leadsToDirectory here es) :=
  (List.monotone_filter_right _ fun _ hs => h.wants hs).map _

/-- **A stricter walk** finds a part of what a milder one finds, in the same
order. The induction is on the tree: of the directories that both go into, the
hypothesis speaks, and the others only the milder walk sees. -/
theorem walk_sublist (h : s.Stricter t) (leadsToDirectory : List String → Bool)
    (here : List String) (es : List (String × Entry)) :
    (s.walk leadsToDirectory here es).Sublist (t.walk leadsToDirectory here es) := by
  rw [walk_eq, walk_eq]
  refine (h.filesHere_sublist leadsToDirectory here es).append ?_
  refine flatMap_filter_sublist (fun d _ hs => h.enters hs) fun d hd => ?_
  have hmem : (d.1, Entry.directory d.2) ∈ es := mem_directoriesIn.mp (mem_sortByName.mp hd)
  exact walk_sublist h leadsToDirectory (here ++ [d.1]) d.2
termination_by sizeOf es
decreasing_by
  have := List.sizeOf_lt_of_mem hmem
  simp only [Prod.mk.sizeOf_spec, Entry.directory.sizeOf_spec] at this
  omega

end Scanner

/-! ## Two scans -/

/-- Two scans that end with the same fault, or the files of the first are a part
of those of the second, in the same order and with the same contents. -/
inductive Within : Except Fault Outcome → Except Fault Outcome → Prop
  | fault (f : Fault) : Within (.error f) (.error f)
  | files {fewer more : Outcome} :
      fewer.files.Sublist more.files → Within (.ok fewer) (.ok more)

theorem Within.refl (result : Except Fault Outcome) : Within result result := by
  cases result with
  | error f => exact .fault f
  | ok outcome => exact .files (List.Sublist.refl _)

theorem readAll_sublist (disk : Disk) (root : List String) {fewer more : List Found}
    (h : fewer.Sublist more) :
    (readAll disk root fewer).files.Sublist (readAll disk root more).files :=
  h.filterMap _

theorem scanDirectory_within {disk : Disk} {root : List String} {es : List (String × Entry)}
    {fewer more extensions : List String}
    (h : ∀ lines, (scannerFor lines fewer extensions).Stricter (scannerFor lines more extensions)) :
    Within (scanDirectory disk root es fewer (extensions.map lowerString))
      (scanDirectory disk root es more (extensions.map lowerString)) := by
  unfold scanDirectory
  cases ignoreLines disk root with
  | error fault => exact .fault _
  | ok lines => exact .files (readAll_sublist disk root (Scanner.walk_sublist (h lines) _ [] es))

/-- A scan reads what its walk finds, and everything else in it does not depend
on the exclusions. -/
theorem scan_within (disk : Disk) (path : Path) {fewer more extensions : List String}
    (h : ∀ lines, (scannerFor lines fewer extensions).Stricter (scannerFor lines more extensions)) :
    Within (scan disk path fewer extensions) (scan disk path more extensions) := by
  unfold scan
  cases disk.realParts path with
  | error fault => cases fault <;> exact .fault _
  | ok root =>
    dsimp only
    cases disk.entry? root with
    | none => exact Within.refl _
    | some e =>
      cases e with
      | directory es => exact scanDirectory_within h
      | file bytes => exact Within.refl _
      | link target => exact Within.refl _

/-- **Scanning is monotone in the exclusions.** Take two scans of one tree, the
second with one line more behind the others. A line that does not begin with `!`
makes the files of the second a part of those of the first, in the same order
and with the same contents; one that begins with `!` makes those of the first a
part of those of the second; a blank line or a comment changes nothing. -/
theorem scan_monotone_in_exclusions (disk : Disk) (path : Path) (excludePaths : List String)
    (pattern : String) (extensions : List String) :
    let before := scan disk path excludePaths extensions
    let after := scan disk path (excludePaths ++ [pattern]) extensions
    ((trim pattern.toList).head? ≠ some '!' → Within after before) ∧
    ((trim pattern.toList).head? = some '!' → Within before after) ∧
    (trim pattern.toList = [] ∨ (trim pattern.toList).head? = some '#' → after = before) := by
  refine ⟨fun h => scan_within disk path fun lines => ?_,
    fun h => scan_within disk path fun lines => ?_, fun h => ?_⟩
  · exact stricter_of_leavesOut lines excludePaths h extensions
  · exact stricter_of_bringsBack lines excludePaths h extensions
  · have hlines : ∀ lines : List (List Char),
        exclusionsOf (lines ++ (excludePaths ++ [pattern]).map String.toList) =
          exclusionsOf (lines ++ excludePaths.map String.toList) := fun lines => by
      simp [exclusionsOf, ofLine?_eq_none h]
    simp only [scan, scanDirectory, hlines]

/-- A line that leaves out the style sheets, one that brings back what the ignore
file leaves out, and a comment. -/
theorem siteDisk_scans :
    let scanWith := fun lines => scan siteDisk (.below true []) lines supportedExtensions
    (trim " *.css".toList).head? ≠ some '!' ∧ (trim "! *.js".toList).head? = some '!' ∧
    (trim "\t# *.css".toList).head? = some '#' ∧
    Within (scanWith ["/src/b*", " *.css"]) (scanWith ["/src/b*"]) ∧
    Within (scanWith ["/src/b*"]) (scanWith ["/src/b*", "! *.js"]) ∧
    scanWith ["/src/b*", "\t# *.css"] = scanWith ["/src/b*"] := by
  intro scanWith
  have hout : (trim " *.css".toList).head? ≠ some '!' := by decide
  have hback : (trim "! *.js".toList).head? = some '!' := by decide
  have hcomment : (trim "\t# *.css".toList).head? = some '#' := by decide
  have hscans := fun line =>
    scan_monotone_in_exclusions siteDisk (.below true []) ["/src/b*"] line supportedExtensions
  exact ⟨hout, hback, hcomment, (hscans _).1 hout, (hscans _).2.1 hback,
    (hscans _).2.2 (Or.inr hcomment)⟩

end SiteAudit.Scan
