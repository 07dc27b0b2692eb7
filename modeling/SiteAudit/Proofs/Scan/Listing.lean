import SiteAudit.Proofs.Scan.Walk

/-!
# What the scan of a directory gives

`Listed` says of a path alone, without a walk, whether a scan should give it: how
it is reached, that no directory above it is left out, that it is not left out
itself, its suffix, and that its text can be read.

* `walked_iff_listed`: among the paths that can be read, the walk looks for
  exactly these.
* `pathOf_injective`: different files have different paths as texts, too.
* `scan_gives_listed_in_order`: a scan gives the listed paths, each once and in
  the order `Before`, with their texts.
-/
namespace SiteAudit.Scan

open Text

/-- A path from the root of a scan, as text. -/
def pathOf (parts : List String) : String := "/".intercalate parts

/-- The lines of the ignore file of a directory: none without such a file, or
those of its text. -/
inductive IgnoreLines (disk : Disk) (root : List String) : List (List Char) → Prop
  /-- Nothing is there, or what is there is no file; it is looked up all the same,
  so it may be no link to a name that is too long. -/
  | absent :
      (∀ place bytes,
        disk.follow (.below true (root ++ [".gitignore"])) ≠ .ok (place, .file bytes)) →
      disk.follow (.below true (root ++ [".gitignore"])) ≠ .error .nameTooLong →
      IgnoreLines disk root []
  | written {place : List String} {bytes : List UInt8} {text : List Char} :
      disk.follow (.below true (root ++ [".gitignore"])) = .ok (place, .file bytes) →
      Utf8.decode bytes = .ok text →
      IgnoreLines disk root (boundaryLines (unifyNewlines text))

theorem IgnoreLines.ignoreLines_eq {disk : Disk} {root : List String} {lines : List (List Char)}
    (h : IgnoreLines disk root lines) : ignoreLines disk root = .ok lines := by
  unfold ignoreLines ignoreFileName
  cases h with
  | absent hfile hname =>
    dsimp only
    split
    · rename_i place bytes hfollow
      exact absurd hfollow (hfile place bytes)
    · rename_i hfollow
      exact absurd hfollow hname
    · rfl
  | written hfollow hdecode => simp [hfollow, textOfBytes, hdecode, Except.map]

/-- The paths that the scan of a directory should give. -/
structure Listed (disk : Disk) (root : List String) (exclusions : List Exclusion)
    (extensions : List String) (r : List String) : Prop where
  /-- Real directories, and no links, lead to an entry that is no directory. -/
  reached : ∃ e, disk.entry? (root ++ r) = some e ∧ e.isDirectory = false
  /-- No directory above it is one that is never walked or is left out. -/
  above : ∀ above name rest, r = above ++ name :: rest → rest ≠ [] →
    name ∉ skippedDirectories ∧ ¬Excluded exclusions (pathOf (above ++ [name])).toList true
  kept : ¬Excluded exclusions (pathOf r).toList false
  wanted : ∀ name ∈ r.getLast?, lowerString (String.ofList (suffix name.toList)) ∈ extensions
  readable : ∃ text, disk.readText (.below true (root ++ r)) = .ok text

/-! ## Entries and texts of a disk -/

theorem entryIn?_directory {es inner : List (String × Entry)} {name : String}
    (h : es.lookup name = some (.directory inner)) (rest : List String) :
    Disk.entryIn? es (name :: rest) = Disk.entryIn? inner rest := by
  cases rest <;> simp [Disk.entryIn?, h]

theorem entryIn?_append {all es : List (String × Entry)} {root : List String}
    (h : Disk.entryIn? all root = some (.directory es)) (r : List String) :
    Disk.entryIn? all (root ++ r) = Disk.entryIn? es r := by
  induction root generalizing all with
  | nil =>
    obtain rfl : all = es := by simpa [Disk.entryIn?] using h
    rfl
  | cons name more ih =>
    obtain ⟨inner, hlookup⟩ : ∃ inner, all.lookup name = some (.directory inner) := by
      cases more with
      | nil => exact ⟨es, h⟩
      | cons next more =>
        obtain ⟨inner, hlookup, -⟩ := (entryIn?_cons (List.cons_ne_nil next more)).mp h
        exact ⟨inner, hlookup⟩
    rw [entryIn?_directory hlookup] at h
    rw [List.cons_append, entryIn?_directory hlookup, ih h]

theorem WellNamed.no_slash {es : List (String × Entry)} (h : WellNamed es) {r : List String}
    {e : Entry} (he : Disk.entryIn? es r = some e) : ∀ name ∈ r, '/' ∉ name.toList := by
  induction h generalizing r with
  | @intro es distinct plain inner ih =>
    match r, he with
    | [], _ => simp
    | [name], he =>
      have hmem : (name, e) ∈ es := (lookup_eq_some_iff distinct).mp he
      simpa using plain _ hmem
    | name :: next :: more, he =>
      obtain ⟨below, hlookup, hbelow⟩ := (entryIn?_cons (List.cons_ne_nil next more)).mp he
      have hmem := (lookup_eq_some_iff distinct).mp hlookup
      intro n hn
      rcases List.mem_cons.mp hn with rfl | hn
      · exact plain _ hmem
      · exact ih name below hmem hbelow n hn

theorem pathOf_injective {r r' : List String} (hr : r ≠ []) (hr' : r' ≠ [])
    (hplain : ∀ name ∈ r, '/' ∉ name.toList) (hplain' : ∀ name ∈ r', '/' ∉ name.toList)
    (h : pathOf r = pathOf r') : r = r' := by
  have hsplit : ∀ parts : List String, parts ≠ [] → (∀ name ∈ parts, '/' ∉ name.toList) →
      (pathOf parts).toList.splitOn '/' = parts.map String.toList := by
    intro parts hne hnone
    rw [pathOf, String.toList_intercalate]
    exact List.splitOn_intercalate '/' (by simpa using hnone) (by simpa using hne)
  have hlists : r.map String.toList = r'.map String.toList := by
    rw [← hsplit r hr hplain, ← hsplit r' hr' hplain', h]
  exact (List.map_inj_right fun _ _ => String.toList_inj.mp).mp hlists

theorem not_isDirectoryAt {disk : Disk} {p : Path} {text : List Char}
    (h : disk.readText p = .ok text) : disk.isDirectoryAt p = false := by
  unfold Disk.readText Disk.readBytes at h
  unfold Disk.isDirectoryAt
  cases hf : disk.follow p with
  | error fault => rfl
  | ok there =>
    obtain ⟨place, e⟩ := there
    cases e with
    | file bytes => rfl
    | directory inner => simp [hf] at h
    | link target => rfl

/-! ## The walk and the listed paths -/

/-- Whether an entry below `root` is a directory or leads to one. -/
def leadsToDirectory (disk : Disk) (root r : List String) : Bool :=
  disk.isDirectoryAt (.below true (root ++ r))

theorem Scanner.enters_iff (s : Scanner) (here : List String) (name : String) :
    s.enters here name = true ↔ name ∉ skippedDirectories ∧
      ¬Excluded s.exclusions (pathOf (here ++ [name])).toList true := by
  rw [← isExcluded_iff]
  simp [enters, joinPath, pathOf]

theorem Scanner.wants_iff (s : Scanner) (here : List String) (name : String) :
    s.wants here name = true ↔ ¬Excluded s.exclusions (pathOf (here ++ [name])).toList false ∧
      lowerString (String.ofList (suffix name.toList)) ∈ s.extensions := by
  rw [← isExcluded_iff]
  simp [wants, joinPath, pathOf]

/-- **The paths that a walk looks for**, as far as they can be read, are the
listed ones. -/
theorem walked_iff_listed {disk : Disk} {root : List String} {es : List (String × Entry)}
    (hroot : disk.entry? root = some (.directory es)) (s : Scanner) {r : List String}
    {text : List Char} (hread : disk.readText (.below true (root ++ r)) = .ok text) :
    s.Walked (leadsToDirectory disk root) [] es r ↔
      Listed disk root s.exclusions s.extensions r := by
  have hentry : disk.entry? (root ++ r) = Disk.entryIn? es r := entryIn?_append hroot r
  constructor
  · intro h
    obtain ⟨e, he, hfile, -⟩ := h.entry
    obtain ⟨above, name, rfl⟩ : ∃ above name, r = above ++ [name] :=
      ⟨_, _, (List.dropLast_concat_getLast h.ne_nil).symm⟩
    obtain ⟨hkept, hwanted⟩ := (s.wants_iff above name).mp (h.wanted above name rfl)
    refine ⟨⟨e, hentry.trans he, hfile⟩, ?_, hkept, by simpa using hwanted, text, hread⟩
    intro higher d rest hsplit hrest
    exact (s.enters_iff higher d).mp (h.entered higher d rest hsplit hrest)
  · intro h
    obtain ⟨e, he, hfile⟩ := h.reached
    refine ⟨⟨e, hentry.symm.trans he, hfile, fun _ _ => not_isDirectoryAt hread⟩, ?_, ?_⟩
    · intro higher d rest hsplit hrest
      exact (s.enters_iff higher d).mpr (h.above higher d rest hsplit hrest)
    · rintro higher name rfl
      exact (s.wants_iff higher name).mpr ⟨h.kept, by simpa using h.wanted⟩

/-! ## Reading -/

def readable (disk : Disk) (root r : List String) : Bool :=
  (disk.readText (.below true (root ++ r))).toBool

theorem readable_iff {disk : Disk} {root r : List String} :
    readable disk root r = true ↔ ∃ text, disk.readText (.below true (root ++ r)) = .ok text := by
  unfold readable
  cases disk.readText (.below true (root ++ r)) <;> simp [Except.toBool]

theorem readAll_files (disk : Disk) (root : List String) (names : List Found) :
    (readAll disk root names).files.map (fun f => (f.path, Except.ok f.content.toList)) =
      (names.filter (readable disk root)).map (fun r =>
        (pathOf r, disk.readText (.below true (root ++ r)))) := by
  induction names with
  | nil => rfl
  | cons r more ih =>
    simp only [readAll] at ih ⊢
    cases hr : disk.readText (.below true (root ++ r)) with
    | ok text =>
      have hone : (readOne disk root r).getLeft? = some ⟨pathOf r, String.ofList text⟩ := by
        simp [readOne, hr, pathOf]
      have hreadable : readable disk root r = true := readable_iff.mpr ⟨text, hr⟩
      simp only [List.filterMap_cons, hone, List.filter_cons, hreadable, if_true, List.map_cons,
        ih, hr, String.toList_ofList]
    | error fault =>
      have hone : (readOne disk root r).getLeft? = none := by simp [readOne, hr]
      have hreadable : readable disk root r = false := by simp [readable, hr, Except.toBool]
      simp only [List.filterMap_cons, hone, List.filter_cons, hreadable, ih]
      rfl

/-- The scanner for a directory with an ignore file of these lines. -/
def scannerFor (lines : List (List Char)) (excludePaths extensions : List String) : Scanner where
  exclusions := exclusionsOf (lines ++ excludePaths.map String.toList)
  extensions := extensions.map lowerString

theorem scan_eq_readAll {disk : Disk} {path : Path} {root : List String}
    {es : List (String × Entry)} {lines : List (List Char)} (hpath : disk.realParts path = .ok root)
    (hroot : disk.entry? root = some (.directory es)) (hlines : IgnoreLines disk root lines)
    (excludePaths extensions : List String) :
    ∃ outcome, scan disk path excludePaths extensions = .ok outcome ∧
      outcome.files = (readAll disk root ((scannerFor lines excludePaths extensions).walk
        (leadsToDirectory disk root) [] es)).files := by
  simp only [scan, hpath, hroot, scanDirectory, hlines.ignoreLines_eq]
  exact ⟨_, rfl, rfl⟩

theorem walk_paths_nodup {s : Scanner} {leads : List String → Bool} {es : List (String × Entry)}
    (h : WellNamed es) {names : List Found} (hnames : names.Sublist (s.walk leads [] es)) :
    (names.map pathOf).Nodup := by
  have hplain : ∀ r ∈ names, r ≠ [] ∧ ∀ name ∈ r, '/' ∉ name.toList := by
    intro r hr
    obtain ⟨rest, rfl, hrest⟩ := (Scanner.mem_walk h [] r).mp (hnames.subset hr)
    obtain ⟨e, he, -⟩ := hrest.entry
    exact ⟨hrest.ne_nil, h.no_slash he⟩
  have hsorted : names.Pairwise Before := (Scanner.walk_sorted h []).sublist hnames
  refine List.pairwise_map.mpr (hsorted.imp_of_mem fun {r r'} hr hr' hbefore heq => ?_)
  obtain ⟨hne, hslash⟩ := hplain r hr
  obtain ⟨hne', hslash'⟩ := hplain r' hr'
  exact hbefore.ne (pathOf_injective hne hne' hslash hslash' heq)

/-- **A scan gives the listed paths.** For a directory whose entries have
distinct names, all the way down, and whose ignore file can be read if it has
one, a scan succeeds. It gives the paths that `Listed` describes and no others,
each once, with their texts. The files of a directory come by name, and before
what is in its directories, which come by name. -/
theorem scan_gives_listed_in_order (disk : Disk) (path : Path)
    (excludePaths extensions : List String) {root : List String} {es : List (String × Entry)}
    {lines : List (List Char)} (hpath : disk.realParts path = .ok root)
    (hroot : disk.entry? root = some (.directory es)) (hnames : WellNamed es)
    (hlines : IgnoreLines disk root lines) :
    ∃ (outcome : Outcome) (names : List (List String)),
      scan disk path excludePaths extensions = .ok outcome ∧
      outcome.files.map (fun f => (f.path, Except.ok f.content.toList)) =
        names.map (fun r => (pathOf r, disk.readText (.below true (root ++ r)))) ∧
      (∀ r, r ∈ names ↔ Listed disk root
        (exclusionsOf (lines ++ excludePaths.map String.toList)) (extensions.map lowerString) r) ∧
      (outcome.files.map (·.path)).Nodup ∧
      names.Pairwise Before := by
  let s := scannerFor lines excludePaths extensions
  let walk := s.walk (leadsToDirectory disk root) [] es
  obtain ⟨outcome, hscan, hfiles⟩ :=
    scan_eq_readAll hpath hroot hlines excludePaths extensions
  have hread : outcome.files.map (fun f => (f.path, Except.ok f.content.toList)) =
      (walk.filter (readable disk root)).map (fun r =>
        (pathOf r, disk.readText (.below true (root ++ r)))) := by
    rw [hfiles, readAll_files]
  have hpaths : outcome.files.map (·.path) = (walk.filter (readable disk root)).map pathOf := by
    have hfst := congrArg (List.map Prod.fst) hread
    rw [List.map_map, List.map_map] at hfst
    exact hfst
  refine ⟨outcome, walk.filter (readable disk root), hscan, hread, fun r => ?_, ?_, ?_⟩
  · have hwalk : r ∈ walk ↔ s.Walked (leadsToDirectory disk root) [] es r := by
      simpa using Scanner.mem_walk hnames [] r
    rw [List.mem_filter, hwalk, readable_iff]
    constructor
    · rintro ⟨hr, text, htext⟩
      exact (walked_iff_listed hroot s htext).mp hr
    · intro hr
      obtain ⟨text, htext⟩ := hr.readable
      exact ⟨(walked_iff_listed hroot s htext).mpr hr, text, htext⟩
  · rw [hpaths]
    exact walk_paths_nodup hnames List.filter_sublist
  · exact (Scanner.walk_sorted hnames []).filter _

/-- The bytes of an ignore file that leaves out `build`, if it is a directory,
and scripts, but brings back those named `main.js`. -/
def siteIgnore : List UInt8 :=
  [98, 117, 105, 108, 100, 47, 10, 42, 46, 106, 115, 10, 33, 109, 97, 105, 110, 46, 106, 115]

/-- A tree in which an excluded directory holds a file that the ignore file
brings back, with links to a file and to a directory and a file without text. -/
def siteDisk : Disk where
  top := "/site"
  entries := [
    (".gitignore", .file siteIgnore),
    ("zoo.css", .file [46, 97, 123, 125]),
    ("src", .directory [
      ("old.js", .file []),
      ("main.js", .file []),
      ("alias.css", .link "../zoo.css"),
      ("top", .link ".."),
      ("bad.css", .file [255])]),
    ("build", .directory [("main.js", .file [])])]

theorem siteDisk_scanned :
    ∃ lines, siteDisk.realParts (.below true []) = .ok [] ∧
      siteDisk.entry? [] = some (.directory siteDisk.entries) ∧ WellNamed siteDisk.entries ∧
      IgnoreLines siteDisk [] lines ∧
      ∃ (outcome : Outcome) (names : List (List String)),
        scan siteDisk (.below true []) ["/src/b*"] supportedExtensions = .ok outcome ∧
        outcome.files.map (fun f => (f.path, Except.ok f.content.toList)) =
          names.map (fun r => (pathOf r, siteDisk.readText (.below true r))) ∧
        (∀ r, r ∈ names ↔ Listed siteDisk [] (exclusionsOf (lines ++ ["/src/b*".toList]))
          (supportedExtensions.map lowerString) r) ∧
        (outcome.files.map (·.path)).Nodup ∧ names.Pairwise Before := by
  have hpath : siteDisk.realParts (.below true []) = .ok [] := by
    simp [Disk.realParts, Disk.realFrom]
  have hfollow : siteDisk.follow (.below true [".gitignore"]) =
      .ok ([".gitignore"], .file siteIgnore) := by
    simp [Disk.follow, Disk.followFrom, Disk.entry?, siteDisk, Disk.entryIn?]
  have hdecode : Utf8.decode siteIgnore = .ok "build/\n*.js\n!main.js".toList := by
    simp [Utf8.decode, Utf8.decodeFrom, Utf8.readFrom, siteIgnore, Except.map]
  have hlines : IgnoreLines siteDisk [] _ := .written hfollow hdecode
  have hnames : WellNamed siteDisk.entries := by
    refine .intro (by decide) (by decide) ?_
    intro name below h
    simp only [siteDisk, List.mem_cons, Prod.mk.injEq, Entry.directory.injEq, reduceCtorEq,
      and_false, false_or, List.not_mem_nil, or_false] at h
    rcases h with ⟨-, rfl⟩ | ⟨-, rfl⟩ <;> exact .intro (by decide) (by decide) (by simp)
  exact ⟨_, hpath, rfl, hnames, hlines,
    scan_gives_listed_in_order siteDisk (.below true []) ["/src/b*"] supportedExtensions hpath rfl
      hnames hlines⟩

end SiteAudit.Scan
