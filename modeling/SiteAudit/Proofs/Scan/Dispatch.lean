import SiteAudit.Proofs.Batch.Kinds
import SiteAudit.Proofs.Disk.Resolution
import SiteAudit.Proofs.Scan.Listing

/-!
# What a scan takes, and who checks it

A scan looks at the suffix of a file's name, which needs something in front of its
dot and behind it. An audit looks at what follows the last dot of the whole path,
and a directory may hold that dot. Where a name has a dot, the last one of the path
is its last one; so the two differ only for names that begin with their last dot.

* `extension_pathOf`: the extension of a path ends its last name, if that has a dot.
* `suffix_supported_iff`: a suffix is one to be scanned if an analyzer is found for
  the path and the last dot does not begin the name.
* `scanned_are_analyzed`: hence a scan takes the files that are not left out and for
  which there is an analyzer, but for such names, and an audit skips none of them.
-/
namespace SiteAudit

/-! ## Analyzers and their extensions -/

theorem analyzerFor_isSome_iff (path : String) :
    (Audit.default.analyzerFor path).isSome = true ↔ extension path ∈ supportedExtensions := by
  rw [Audit.analyzerFor, List.find?_isSome, supportedExtensions, List.mem_flatMap]
  simp only [Analyzer.supports, List.contains_iff_mem]
  exact Iff.rfl

theorem lowerString_supported : supportedExtensions.map Text.lowerString = supportedExtensions := by
  decide

/-! ## Suffixes -/

theorem exists_fromLast {c : Char} {s : List Char} (h : c ∈ s) :
    ∃ before t, s = before ++ c :: t ∧ c ∉ t := by
  obtain ⟨tail, before, hs, htail⟩ := List.eq_append_cons_of_mem (List.mem_reverse.mpr h)
  refine ⟨before.reverse, tail.reverse, ?_, by simpa using htail⟩
  rw [← List.reverse_reverse s, hs]
  simp

theorem suffix_of_no_dot {name : List Char} (h : '.' ∉ name) : suffix name = [] := by
  simp [suffix, fromLast, h]

theorem suffix_append {t : List Char} (h : '.' ∉ t) (stem : List Char) :
    suffix (stem ++ '.' :: t) = if stem = [] ∨ t = [] then [] else '.' :: t := by
  simp [suffix, fromLast_append h, or_comm]

/-- A name with something in front of its last dot. -/
def HasStem (name : List Char) : Prop :=
  ∃ stem t, name = stem ++ '.' :: t ∧ '.' ∉ t ∧ stem ≠ []

namespace Scan

theorem pathOf_snoc (here : List String) (name : String) :
    ∃ above, (pathOf (here ++ [name])).toList = above ++ name.toList := by
  induction here with
  | nil => exact ⟨[], by simp [pathOf]⟩
  | cons d here ih =>
    obtain ⟨above, habove⟩ := ih
    have hcons : pathOf (d :: (here ++ [name])) = d ++ "/" ++ pathOf (here ++ [name]) :=
      String.intercalate_cons_of_ne_nil (by simp)
    exact ⟨d.toList ++ '/' :: above, by simp [hcons, habove]⟩

/-- The extension of a path ends its last name, if that has a dot: dots in the names of
directories do not count. -/
theorem extension_pathOf {here : List String} {name : String} {stem t : List Char}
    (hname : name.toList = stem ++ '.' :: t) (ht : '.' ∉ t) :
    extension (pathOf (here ++ [name])) = Text.lowerString (String.ofList ('.' :: t)) := by
  obtain ⟨above, hpath⟩ := pathOf_snoc here name
  rw [extension_eq, writtenExtension, hpath, hname, ← List.append_assoc, fromLast_append ht]

/-- **The two tests of a path.** The suffix of the name is one to be scanned if an
analyzer is found for the path and something stands in front of the last dot of the
name. -/
theorem suffix_supported_iff (here : List String) (name : String) :
    Text.lowerString (String.ofList (suffix name.toList)) ∈ supportedExtensions ↔
      (Audit.default.analyzerFor (pathOf (here ++ [name]))).isSome = true ∧
        HasStem name.toList := by
  rw [analyzerFor_isSome_iff]
  have hnone : Text.lowerString (String.ofList []) ∉ supportedExtensions := by decide
  by_cases hdot : '.' ∈ name.toList
  · obtain ⟨stem, t, hname, ht⟩ := exists_fromLast hdot
    have hstem : HasStem name.toList ↔ stem ≠ [] := by
      refine ⟨?_, fun hne => ⟨stem, t, hname, ht, hne⟩⟩
      rintro ⟨stem', t', hname', ht', hne⟩ rfl
      -- both cuts are at the last dot
      have hlast := fromLast_append ht' stem'
      rw [← hname', hname, fromLast_append ht] at hlast
      rw [hname, ← hlast] at hname'
      exact hne (List.append_cancel_right hname').symm
    rw [hstem, extension_pathOf hname ht, hname, suffix_append ht]
    by_cases hend : t = []
    · have hlone : Text.lowerString (String.ofList ['.']) ∉ supportedExtensions := by decide
      simp [hend, hnone, hlone]
    · by_cases hfront : stem = []
      · simp [hfront, hnone]
      · simp [hend, hfront]
  · rw [suffix_of_no_dot hdot]
    refine iff_of_false hnone ?_
    rintro ⟨-, stem, t, hname, -, -⟩
    exact hdot (by simp [hname])

/-! ## Scans -/

theorem wants_of_mem_walk (s : Scanner) (leadsToDirectory : List String → Bool)
    {here : List String} {es : List (String × Entry)} {r : Found}
    (h : r ∈ s.walk leadsToDirectory here es) :
    ∃ above name, r = above ++ [name] ∧ s.wants above name = true := by
  rw [Scanner.mem_walk_iff] at h
  rcases h with h | ⟨name, inner, hmem, -, h⟩
  · obtain ⟨name, -, -, -, -, hwants, rfl⟩ := (s.mem_filesHere leadsToDirectory).mp h
    exact ⟨here, name, rfl, hwants⟩
  · exact wants_of_mem_walk s leadsToDirectory h
termination_by sizeOf es
decreasing_by
  have := List.sizeOf_lt_of_mem hmem
  simp only [Prod.mk.sizeOf_spec, Entry.directory.sizeOf_spec] at this
  omega

theorem path_of_mem_readAll {disk : Disk} {root : List String} {names : List Found}
    {file : SourceFile} (h : file ∈ (readAll disk root names).files) :
    ∃ r ∈ names, file.path = pathOf r := by
  obtain ⟨r, hr, hread⟩ := List.mem_filterMap.mp h
  refine ⟨r, hr, ?_⟩
  unfold readOne at hread
  dsimp only at hread
  split at hread
  · rw [← Option.some.inj hread]
    rfl
  · cases hread

theorem wants_of_mem_scan {disk : Disk} {path : Path} {root : List String}
    {es : List (String × Entry)} {excludePaths extensions : List String} {outcome : Outcome}
    (hpath : disk.realParts path = .ok root) (hroot : disk.entry? root = some (.directory es))
    (hscan : scan disk path excludePaths extensions = .ok outcome) {file : SourceFile}
    (hfile : file ∈ outcome.files) :
    ∃ lines above name, file.path = pathOf (above ++ [name]) ∧
      (scannerFor lines excludePaths extensions).wants above name = true := by
  simp only [scan, hpath, hroot, scanDirectory] at hscan
  split at hscan
  · cases hscan
  · rename_i lines _
    rw [← Except.ok.inj hscan] at hfile
    obtain ⟨r, hr, hfound⟩ := path_of_mem_readAll hfile
    obtain ⟨above, name, rfl, hwants⟩ :=
      wants_of_mem_walk (scannerFor lines excludePaths extensions) _ hr
    exact ⟨lines, above, name, hfound, hwants⟩

/-- **Scanned files are analyzed.** With all supported extensions, a scan takes a
file that it does not leave out if the audit finds an analyzer for its path and
something stands in front of the last dot of its name, whatever dots are in the
names of directories. So the audit finds an analyzer for every file that the scan
of a directory gives. -/
theorem scanned_are_analyzed :
    (∀ here name,
      Text.lowerString (String.ofList (suffix name.toList)) ∈
          supportedExtensions.map Text.lowerString ↔
        (Audit.default.analyzerFor (pathOf (here ++ [name]))).isSome = true ∧
          HasStem name.toList) ∧
    (∀ exclusions here name,
      let s : Scanner := { exclusions, extensions := supportedExtensions.map Text.lowerString }
      s.wants here name = true ↔
        ¬Excluded exclusions (pathOf (here ++ [name])).toList false ∧
          (Audit.default.analyzerFor (pathOf (here ++ [name]))).isSome = true ∧
          HasStem name.toList) ∧
    ∀ (disk : Disk) (path : Path) (excludePaths : List String) (root : List String)
      (es : List (String × Entry)) (outcome : Outcome),
      disk.realParts path = .ok root → disk.entry? root = some (.directory es) →
      scan disk path excludePaths = .ok outcome →
        ∀ file ∈ outcome.files, ∃ a, Audit.default.analyzerFor file.path = some a := by
  rw [lowerString_supported]
  refine ⟨suffix_supported_iff, fun exclusions here name => ?_, ?_⟩
  · exact (Scanner.wants_iff _ here name).trans
      (and_congr_right' (suffix_supported_iff here name))
  · intro disk path excludePaths root es outcome hpath hroot hscan file hfile
    obtain ⟨lines, above, name, hname, hwants⟩ := wants_of_mem_scan hpath hroot hscan hfile
    obtain ⟨-, htaken⟩ := (Scanner.wants_iff _ above name).mp hwants
    rw [scannerFor, lowerString_supported, suffix_supported_iff above] at htaken
    rw [hname]
    exact Option.isSome_iff_exists.mp htaken.1

/-- A disk with a directory whose name ends like that of a style sheet. -/
def dottedDisk : Disk where
  top := "/site"
  entries := [("lib.css", .directory [("main.js", .file [])])]

theorem walk_dottedDisk :
    (scannerFor [] [] supportedExtensions).walk (leadsToDirectory dottedDisk []) []
      dottedDisk.entries = [["lib.css", "main.js"]] := by
  have henters : (scannerFor [] [] supportedExtensions).enters [] "lib.css" = true := by
    decide +kernel
  have hwants : (scannerFor [] [] supportedExtensions).wants ["lib.css"] "main.js" = true := by
    decide +kernel
  simp [Scanner.walk, dottedDisk, Scanner.filesHere, Scanner.below, sortByName, henters, hwants]

theorem readText_dottedDisk :
    dottedDisk.readText (.below true ["lib.css", "main.js"]) = .ok [] := by
  have hplace : dottedDisk.realParts (.below true ["lib.css", "main.js"]) =
      .ok ["lib.css", "main.js"] := by
    simp [Disk.realParts, Disk.realFrom, Disk.entry?, Disk.entryIn?, dottedDisk]
  have hfile : dottedDisk.entry? ["lib.css", "main.js"] = some (.file []) := by
    simp [Disk.entry?, Disk.entryIn?, dottedDisk]
  rw [Disk.readText_resolved hplace hfile]
  simp [textOfBytes, Text.Utf8.decode, Text.Utf8.decodeFrom, Text.unifyNewlines]

theorem dottedDisk_analyzed :
    dottedDisk.realParts (.below true []) = .ok [] ∧
      dottedDisk.entry? [] = some (.directory dottedDisk.entries) ∧
      ∃ outcome, scan dottedDisk (.below true []) [] = .ok outcome ∧
        outcome.files.map (·.path) = ["lib.css/main.js"] ∧
        ∀ file ∈ outcome.files, ∃ a, Audit.default.analyzerFor file.path = some a := by
  have hpath : dottedDisk.realParts (.below true []) = .ok [] := by
    simp [Disk.realParts, Disk.realFrom]
  have hnone : List.lookup ".gitignore" dottedDisk.entries = none := by decide
  have hlines : IgnoreLines dottedDisk [] [] := by
    have hfollow : dottedDisk.follow (.below true [".gitignore"]) = .error .missing := by
      simp [Disk.follow, Disk.followFrom, Disk.entry?, Disk.entryIn?, hnone, PathFault.ofName]
      decide
    exact .absent (by simp [hfollow]) (by simp [hfollow])
  obtain ⟨outcome, hscan, hfiles⟩ := scan_eq_readAll hpath rfl hlines [] supportedExtensions
  have hread : outcome.files.map (·.path) = ["lib.css/main.js"] := by
    rw [hfiles, walk_dottedDisk]
    simp only [readAll, readOne, List.filterMap, List.nil_append, readText_dottedDisk]
    decide +kernel
  exact ⟨hpath, rfl, outcome, hscan, hread,
    scanned_are_analyzed.2.2 dottedDisk _ [] [] _ outcome hpath rfl hscan⟩

end Scan

end SiteAudit
