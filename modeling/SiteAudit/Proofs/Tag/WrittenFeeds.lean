import SiteAudit.Proofs.Tag.Rests
import SiteAudit.Proofs.Results

/-!
# The line feeds that a text writes

A text writes a line feed as it is or as a character reference, and references
are resolved before the text is handed on. `writtenFeeds` counts both ways.

* `reference?_feeds`: of the named references only one stands for a line feed.
* `read?_sound`, `decode_feeds`: a resolved text has no more line feeds than its
  source writes.
* `writtenFeeds_cut`: a text may be cut where no number goes on behind the cut,
  and the parts write no more than the whole. A cut inside a number may write
  more: the front of `&#100;` may be `&#10`.
-/
namespace SiteAudit.Tag

open Text CharacterReference

/-- Whether what stands behind an ampersand refers to a line feed: by its number
or by its name. -/
def namesLineFeed (s : List Char) : Bool :=
  match s with
  | '#' :: r =>
    decimalValue (r.takeWhile isDigit) == 10 ||
      match r with
      | x :: h => (x == 'x' || x == 'X') && hexValue (h.takeWhile isHexDigit) == 10
      | [] => false
  | _ => startsWith "NewLine;".toList s

/-- How often a text refers to a line feed. -/
def feedReferences : List Char → Nat
  | [] => 0
  | c :: r => (if c = '&' && namesLineFeed r then 1 else 0) + feedReferences r

/-- How many line feeds a text writes, as they are or as references. -/
def writtenFeeds (s : List Char) : Nat := newlines s + feedReferences s

variable {s a b rest : List Char}

theorem newlines_append (a b : List Char) : newlines (a ++ b) = newlines a + newlines b :=
  List.count_append

theorem newlines_cons (c : Char) (r : List Char) : newlines (c :: r) = newlines [c] + newlines r :=
  newlines_append [c] r

theorem newlines_eq_zero (h : '\n' ∉ s) : newlines s = 0 := List.count_eq_zero.mpr h

theorem writtenFeeds_cons (c : Char) (r : List Char) :
    writtenFeeds (c :: r) =
      newlines [c] + (if c = '&' && namesLineFeed r then 1 else 0) + writtenFeeds r := by
  simp only [writtenFeeds, feedReferences, newlines_cons c r]
  omega

theorem newlines_add_le (a b : List Char) :
    newlines a + writtenFeeds b ≤ writtenFeeds (a ++ b) := by
  induction a with
  | nil => simp [newlines]
  | cons c a ih =>
    rw [List.cons_append, writtenFeeds_cons, newlines_cons c a]
    omega

theorem writtenFeeds_le (h : rest <:+ s) : writtenFeeds rest ≤ writtenFeeds s := by
  obtain ⟨before, rfl⟩ := h
  exact Nat.le_trans (Nat.le_add_left ..) (newlines_add_le before rest)

/-! ## Named references -/

/-- A later entry of the same name hides an earlier one, so nothing is said about which entry is
found. -/
theorem mem_of_getElem?_insertMany {l : List (String × List Char)}
    {m : Std.HashMap String (List Char)} {name : String} {chars : List Char}
    (h : (m.insertMany l)[name]? = some chars) : (name, chars) ∈ l ∨ m[name]? = some chars := by
  induction l generalizing m with
  | nil => exact .inr (by simpa using h)
  | cons e l ih =>
    rw [Std.HashMap.insertMany_cons] at h
    rcases ih h with hmem | hold
    · exact .inl (List.mem_cons_of_mem e hmem)
    · rw [Std.HashMap.getElem?_insert] at hold
      split at hold
      · next hname =>
        obtain rfl := Option.some.inj hold
        obtain rfl : e.1 = name := by simpa using hname
        exact .inl List.mem_cons_self
      · exact .inr hold

theorem exists_reference {name chars : List Char} (h : reference? name = some chars) :
    ∃ codes, (String.ofList name, codes) ∈ references ∧ chars = codes.map Char.ofNat := by
  unfold reference? at h
  have hget : referenceTable[String.ofList name]? = some chars := h
  rw [referenceTable, Std.HashMap.ofList_eq_insertMany_empty] at hget
  rcases mem_of_getElem?_insertMany hget with hmem | hempty
  · obtain ⟨⟨known, codes⟩, he, heq⟩ := List.mem_map.mp hmem
    obtain ⟨rfl, rfl⟩ := Prod.mk.inj heq
    exact ⟨codes, he, rfl⟩
  · simp at hempty

theorem ofNat_eq_newline {n : Nat} (h : Char.ofNat n = '\n') : n = 10 := by
  by_cases hn : n.isValidChar
  · rw [Char.ofNat, dif_pos hn] at h
    exact congrArg Char.toNat h
  · rw [Char.ofNat, dif_neg hn] at h
    exact absurd h (by decide)

theorem newlines_ofNat (n : Nat) : newlines [Char.ofNat n] ≤ if n = 10 then 1 else 0 := by
  split
  · exact List.count_le_length
  · next hn =>
    have hne : Char.ofNat n ≠ '\n' := fun h => hn (ofNat_eq_newline h)
    simp [newlines, hne]

theorem newlines_ofNats (codes : List Nat) : newlines (codes.map Char.ofNat) ≤ codes.count 10 := by
  induction codes with
  | nil => exact Nat.le_refl 0
  | cons n codes ih =>
    have hone := newlines_ofNat n
    rw [List.map_cons, newlines_cons, List.count_cons]
    simp only [beq_iff_eq]
    omega

set_option maxRecDepth 8000 in
theorem eq_of_mem_references : ∀ e ∈ references, 10 ∈ e.2 → e = ("NewLine;", [10]) := by
  decide +kernel

/-- Only one name stands for a line feed. -/
theorem reference?_feeds {name chars : List Char} (h : reference? name = some chars) :
    newlines chars ≤ if name = "NewLine;".toList then 1 else 0 := by
  obtain ⟨codes, hmem, rfl⟩ := exists_reference h
  by_cases hfeed : 10 ∈ codes
  · obtain ⟨hname, rfl⟩ := Prod.mk.inj (eq_of_mem_references _ hmem hfeed)
    rw [if_pos (by rw [← hname, String.toList_ofList])]
    exact List.count_le_length
  · have hcount := newlines_ofNats codes
    rw [List.count_eq_zero.mpr hfeed] at hcount
    exact Nat.le_trans hcount (Nat.zero_le _)

theorem shortened?_eq_some {name chars : List Char} {k : Nat} (h : shortened? name k = some chars) :
    ∃ j ≤ k, ∃ found, reference? (name.take j) = some found ∧ chars = found ++ name.drop j := by
  fun_induction shortened? name k with
  | case1 => cases h
  | case2 => cases h
  | case3 k found hfound => exact ⟨k + 2, Nat.le_refl _, found, hfound, (Option.some.inj h).symm⟩
  | case4 k _ ih =>
    obtain ⟨j, hj, hfound⟩ := ih h
    exact ⟨j, Nat.le_succ_of_le hj, hfound⟩

/-- The starts of a name are tried without its last character, so without the
semicolon that the name of a line feed ends with. -/
theorem shortened?_feeds {name chars : List Char} {k : Nat} (hfeed : '\n' ∉ name)
    (hk : ';' ∉ name.take k) (h : shortened? name k = some chars) : newlines chars = 0 := by
  obtain ⟨j, hj, found, hfound, rfl⟩ := shortened?_eq_some h
  have hne : name.take j ≠ "NewLine;".toList := fun heq =>
    hk ((List.take_prefix_take_left hj).subset (heq ▸ by decide))
  have hzero := reference?_feeds hfound
  rw [if_neg hne] at hzero
  rw [newlines_append, Nat.le_zero.mp hzero,
    newlines_eq_zero fun hmem => hfeed (List.mem_of_mem_drop hmem)]

theorem ofName_feeds {name : List Char} (hfeed : '\n' ∉ name) (hmark : ';' ∉ name.dropLast) :
    newlines (ofName name) ≤ if name = "NewLine;".toList then 1 else 0 := by
  unfold ofName
  split
  · next chars hchars => exact reference?_feeds hchars
  · cases hshort : shortened? name (name.length - 1) with
    | none =>
      rw [Option.getD_none, newlines_eq_zero (by simpa using hfeed)]
      exact Nat.zero_le _
    | some chars =>
      rw [List.dropLast_eq_take] at hmark
      rw [Option.getD_some, shortened?_feeds hfeed hmark hshort]
      exact Nat.zero_le _

/-! ## References as they are read -/

theorem ofNumber_feeds (n : Nat) : newlines (ofNumber n) ≤ if n = 10 then 1 else 0 := by
  unfold ofNumber
  split
  · exact Nat.zero_le _
  split
  · next hold =>
    have hpage : ∀ k : Fin 32, newlines [Char.ofNat (codePage.getD k 0)] = 0 := by decide
    simp only [Bool.and_eq_true, decide_eq_true_eq] at hold
    rw [hpage ⟨n - 0x80, by omega⟩]
    exact Nat.zero_le _
  split
  · exact Nat.zero_le _
  split
  · exact Nat.zero_le _
  · exact newlines_ofNat n

theorem dropSemicolon_rest (s : List Char) : dropSemicolon s <:+ s := by
  unfold dropSemicolon
  split
  · exact List.suffix_cons _ _
  · exact List.suffix_refl _

/-- A reference gives at most one line feed, and that only where it refers to one. -/
theorem feeds_le {n : Nat} {p : Prop} [Decidable p] (hn : n ≤ if p then 1 else 0)
    (h : p → namesLineFeed s = true) : n ≤ if namesLineFeed s then 1 else 0 := by
  by_cases hp : p
  · rw [if_pos hp] at hn
    rw [if_pos (h hp)]
    exact hn
  · rw [if_neg hp] at hn
    exact Nat.le_trans hn (Nat.zero_le _)

theorem namesLineFeed_name (h : "NewLine;".toList <+: s) : namesLineFeed s = true := by
  unfold namesLineFeed
  split
  · exact absurd h (by simp)
  · exact startsWith_iff.mpr h

theorem not_mem_name {name : List Char} (h : ∀ c ∈ name, isNameChar c = true) :
    '\n' ∉ name ∧ ';' ∉ name :=
  ⟨fun hmem => absurd (h _ hmem) (by decide), fun hmem => absurd (h _ hmem) (by decide)⟩

/-- What a reference stands for, and what is left behind it. -/
theorem read?_sound {chars : List Char} (h : read? s = .ok (some (chars, rest))) :
    rest <:+ s ∧ newlines chars ≤ if namesLineFeed s then 1 else 0 := by
  unfold read? at h
  split at h
  · next r =>
    have hr : r <:+ '#' :: r := List.suffix_cons '#' r
    extract_lets digits at h
    split at h
    · split at h
      · cases h
      · obtain ⟨rfl, rfl⟩ := Prod.mk.inj (Option.some.inj (Except.ok.inj h))
        refine ⟨((dropSemicolon_rest _).trans (List.dropWhile_suffix _)).trans hr, ?_⟩
        exact feeds_le (ofNumber_feeds _) fun hten => by simp [namesLineFeed, digits, hten]
    split at h
    · next x hex _ =>
      have hhex : hex <:+ '#' :: x :: hex := (List.suffix_cons x hex).trans hr
      extract_lets hexDigits at h
      split at h
      · next hx =>
        obtain ⟨rfl, rfl⟩ := Prod.mk.inj (Option.some.inj (Except.ok.inj h))
        rw [Bool.and_eq_true] at hx
        refine ⟨((dropSemicolon_rest _).trans (List.dropWhile_suffix _)).trans hhex, ?_⟩
        exact feeds_le (ofNumber_feeds _) fun hten => by
          simp [namesLineFeed, hexDigits, hten, hx.1]
      · cases h
    · cases h
  · extract_lets name at h
    have hname : ∀ c ∈ name, isNameChar c = true := List.all_eq_true.mp List.all_takeWhile
    have hprefix : name <+: s := (List.takeWhile_prefix _).trans (List.take_prefix _ s)
    split at h
    · cases h
    split at h
    · next behind hbehind =>
      obtain ⟨rfl, rfl⟩ := Prod.mk.inj (Option.some.inj (Except.ok.inj h))
      have hs : name ++ [';'] ++ behind = s := by
        rw [List.append_assoc, List.singleton_append, ← hbehind]
        exact List.prefix_iff_eq_append.mp hprefix
      refine ⟨⟨_, hs⟩, feeds_le (ofName_feeds ?_ ?_) fun hfeed => ?_⟩
      · simp [(not_mem_name hname).1]
      · simp [(not_mem_name hname).2]
      · exact namesLineFeed_name (hfeed ▸ ⟨behind, hs⟩)
    · obtain ⟨rfl, rfl⟩ := Prod.mk.inj (Option.some.inj (Except.ok.inj h))
      obtain ⟨hline, hmark⟩ := not_mem_name hname
      refine ⟨List.drop_suffix _ s, feeds_le (ofName_feeds hline ?_) fun hfeed => ?_⟩
      · exact fun hmem => hmark (List.dropLast_subset _ hmem)
      · exact namesLineFeed_name (hfeed ▸ hprefix)

theorem decodeSteps_feeds {k : Nat} {chars : List Char} (h : decodeSteps k s = .ok chars) :
    newlines chars ≤ writtenFeeds s := by
  fun_induction decodeSteps k s generalizing chars with
  | case1 s =>
    obtain rfl := Except.ok.inj h
    exact Nat.le_add_right ..
  | case2 =>
    obtain rfl := Except.ok.inj h
    exact Nat.zero_le _
  | case3 => cases h
  | case4 k r found rest hread ih =>
    obtain ⟨later, hlater, rfl⟩ := map_eq_ok h
    obtain ⟨hbehind, hfound⟩ := read?_sound hread
    have hrest := writtenFeeds_le hbehind
    have hdecoded := ih hlater
    rw [newlines_append, writtenFeeds_cons]
    simp only [decide_true, Bool.true_and]
    omega
  | case5 k r hread ih =>
    obtain ⟨later, hlater, rfl⟩ := map_eq_ok h
    have hdecoded := ih hlater
    rw [newlines_cons, writtenFeeds_cons]
    omega
  | case6 k c r hc ih =>
    obtain ⟨later, hlater, rfl⟩ := map_eq_ok h
    have hdecoded := ih hlater
    rw [newlines_cons, writtenFeeds_cons]
    omega

/-- Resolving the references of a text makes no more line feeds than it writes. -/
theorem decode_feeds {chars : List Char} (h : decode s = .ok chars) :
    newlines chars ≤ writtenFeeds s := decodeSteps_feeds h

/-! ## Cuts -/

/-- Whether a text may be cut between `a` and `b`: not inside a number. -/
def CleanCut (a b : List Char) : Prop :=
  (∀ c ∈ a.getLast?, isHexDigit c = false) ∨ ∀ c ∈ b.head?, isHexDigit c = false

theorem cleanCut_behind {c : Char} (h : isHexDigit c = false) : CleanCut (a ++ [c]) b := by
  refine .inl fun d hd => ?_
  rw [List.getLast?_concat, Option.mem_some_iff] at hd
  exact hd ▸ h

theorem cleanCut_before {c : Char} (h : isHexDigit c = false) : CleanCut a (c :: b) :=
  .inr fun _ hd => Option.mem_some_iff.mp hd ▸ h

theorem CleanCut.tail {c : Char} (h : CleanCut (c :: a) b) (hne : a ≠ []) : CleanCut a b := by
  obtain ⟨d, r, rfl⟩ := List.exists_cons_of_ne_nil hne
  rwa [CleanCut, List.getLast?_cons_cons] at h

/-- Digits in front of the cut do not go on behind it. -/
theorem CleanCut.takeWhile_append {p : Char → Bool} (hp : ∀ c, p c = true → isHexDigit c = true)
    (h : CleanCut a b) (hne : a ≠ []) : (a ++ b).takeWhile p = a.takeWhile p := by
  rw [List.takeWhile_append]
  split
  · next hall =>
    have ha : a.takeWhile p = a := (List.takeWhile_prefix p).eq_of_length hall
    have hb : b.takeWhile p = [] := by
      cases b with
      | nil => rfl
      | cons c b =>
        refine List.takeWhile_cons_of_neg fun hc => ?_
        rcases h with hlast | hhead
        · have hpass : p (a.getLast hne) = true :=
            List.all_eq_true.mp (ha ▸ List.all_takeWhile) _ (List.getLast_mem hne)
          have hdigit := hlast _ (List.getLast?_eq_some_getLast hne)
          rw [hp _ hpass] at hdigit
          cases hdigit
        · have hdigit := hhead c rfl
          rw [hp c hc] at hdigit
          cases hdigit
    rw [hb, ha, List.append_nil]
  · rfl

theorem isHexDigit_of_isDigit (c : Char) (h : isDigit c = true) : isHexDigit c = true := by
  simp [isHexDigit, h]

theorem namesLineFeed_append (h : CleanCut a b) (ha : namesLineFeed a = true) :
    namesLineFeed (a ++ b) = true := by
  unfold namesLineFeed at ha
  split at ha
  · next r =>
    rcases Bool.or_eq_true _ _ |>.mp ha with hten | hhex
    · have hne : r ≠ [] := by
        rintro rfl
        exact absurd hten (by decide)
      have hcut := (h.tail hne).takeWhile_append isHexDigit_of_isDigit hne
      simp [namesLineFeed, hcut, beq_iff_eq.mp hten]
    · split at hhex
      · next x hex =>
        rw [Bool.and_eq_true] at hhex
        have hne : hex ≠ [] := by
          rintro rfl
          exact absurd hhex.2 (by decide)
        have hcut := ((h.tail (List.cons_ne_nil x hex)).tail hne).takeWhile_append (fun _ => id) hne
        simp [namesLineFeed, hcut, hhex.1, beq_iff_eq.mp hhex.2]
      · cases hhex
  · exact namesLineFeed_name ((startsWith_iff.mp ha).trans (List.prefix_append a b))

/-- The parts of a clean cut write no more line feeds than the whole. -/
theorem writtenFeeds_cut (h : CleanCut a b) :
    writtenFeeds a + writtenFeeds b ≤ writtenFeeds (a ++ b) := by
  induction a with
  | nil => exact Nat.le_of_eq (Nat.zero_add _)
  | cons c a ih =>
    by_cases hne : a = []
    · subst hne
      have hnone : namesLineFeed [] = false := by decide
      have hone : writtenFeeds [c] = newlines [c] := by simp [writtenFeeds, feedReferences, hnone]
      exact hone ▸ newlines_add_le [c] b
    · -- only the ampersand in front can refer to something else than before the cut
      have hrest := ih (h.tail hne)
      have hname := namesLineFeed_append (h.tail hne)
      rw [List.cons_append, writtenFeeds_cons, writtenFeeds_cons c (a ++ b)]
      by_cases hc : (c = '&' && namesLineFeed a) = true
      · have hwhole : (c = '&' && namesLineFeed (a ++ b)) = true := by
          rw [Bool.and_eq_true] at hc ⊢
          exact ⟨hc.1, hname hc.2⟩
        rw [if_pos hc, if_pos hwhole]
        omega
      · rw [if_neg hc]
        omega

end SiteAudit.Tag
