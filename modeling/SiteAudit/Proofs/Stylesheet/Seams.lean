import SiteAudit.Proofs.Stylesheet.RuleLists

/-!
# Where a stylesheet can be cut

Comments are taken out of a stylesheet, then addresses, and then its preludes
are collected. Each of the three passes reads on over the place where two texts
meet. Here it is shown what the first text has to close by itself, so that the
pass does the same to both texts together as to each of them.

* `stripComments_append`: comments, if those of the first text are closed in it.
* `stripUrls_append`: addresses, if every one that opens in the first text is
  closed in it and none can open across the seam.
* `Closed.clean_append`: both, if the first text ends with a character that has to
  do with neither (`Border`).
* `preludes_append`: preludes, if the first text ends at depth zero with a closing
  brace. Then nothing is left over from it, since above depth zero nothing is
  kept (`current_foldl`).
-/
namespace SiteAudit.Stylesheet

open Text

/-! ## Comments -/

theorem Uncommented.eq_nil {code : List Char} (h : Uncommented [] code) : code = [] := by
  cases h with
  | nil => rfl

theorem uncommented_of_no_slash {s : List Char} (h : '/' ∉ s) : Uncommented s s := by
  have hplain := WithComments.behind s .nil
  rw [List.append_nil] at hplain
  exact hplain.uncommented fun hin => h (hin.subset (List.mem_cons_self ..))

theorem stripComments_cons {c : Char} (hc : c ≠ '/') (s : List Char) :
    stripComments (c :: s) = c :: stripComments s :=
  stripCommentsFrom.eq_5 c s fun _ heq => absurd heq hc

/-- Comments are taken out of both texts if those of the first are closed in it
and none begins across the seam. -/
theorem stripComments_append {a code : List Char} (h : Uncommented a code) {b : List Char}
    (hseam : ∀ t, b = '*' :: t → a.getLast? ≠ some '/') :
    stripComments (a ++ b) = code ++ stripComments b := by
  induction h with
  | nil => rfl
  | @code c text code h _ ih =>
    have hstart : ∀ t, c = '/' → text ++ b ≠ '*' :: t := by
      rintro t rfl heq
      cases text with
      | nil => exact hseam t heq rfl
      | cons d text =>
        obtain ⟨rfl, -⟩ := List.cons.inj heq
        exact h ⟨text, rfl⟩
    have hmore : ∀ t, b = '*' :: t → text.getLast? ≠ some '/' := by
      intro t ht hlast
      refine hseam t ht ?_
      rw [List.getLast?_cons, hlast]
      rfl
    rw [List.cons_append, stripComments, stripCommentsFrom.eq_5 c _ hstart, List.cons_append]
    exact congrArg (c :: ·) (ih hmore)
  | @comment body text code h _ ih =>
    have hmore : ∀ t, b = '*' :: t → text.getLast? ≠ some '/' := by
      intro t ht hlast
      refine hseam t ht ?_
      simp [List.getLast?_cons, hlast]
    obtain ⟨hcloses, hstrip⟩ := stripCommentsFrom_body h (text ++ b)
    rw [List.cons_append, List.cons_append, List.append_assoc, List.cons_append,
      List.cons_append, stripComments, stripCommentsFrom.eq_2, if_pos hcloses, hstrip]
    exact ih hmore

/-- A last character that ends no comment is code. -/
theorem Uncommented.of_concat {a code : List Char} {c : Char} (hc : c ≠ '/')
    (h : Uncommented (a ++ [c]) code) : ∃ front, code = front ++ [c] ∧ Uncommented a front := by
  generalize htext : a ++ [c] = text at h
  induction h generalizing a with
  | nil => simp at htext
  | @code d text code h more ih =>
    cases a with
    | nil =>
      obtain ⟨rfl, rfl⟩ : c = d ∧ [] = text := by simpa using htext
      exact ⟨[], by rw [more.eq_nil]; rfl, .nil⟩
    | cons e a =>
      obtain ⟨rfl, rfl⟩ : e = d ∧ a ++ [c] = text := by simpa using htext
      obtain ⟨front, rfl, hfront⟩ := ih rfl
      refine ⟨e :: front, rfl, .code e (fun hstart => h (hstart.trans ?_)) hfront⟩
      exact List.prefix_append (e :: a) [c]
  | @comment body text code h more ih =>
    rcases List.eq_nil_or_concat text with rfl | ⟨init, d, rfl⟩
    · have hlast := congrArg List.getLast? htext
      simp [List.getLast?_cons] at hlast
      exact absurd hlast hc
    · have hsplit : a ++ [c] = '/' :: '*' :: (body ++ '*' :: '/' :: init) ++ [d] := by
        simpa using htext
      obtain ⟨rfl, hd⟩ := List.append_inj' hsplit rfl
      obtain rfl : c = d := by simpa using hd
      obtain ⟨front, rfl, hfront⟩ := ih (List.concat_eq_append ..).symm
      exact ⟨front, rfl, .comment body h hfront⟩

/-- A first character that begins no comment is code. -/
theorem Uncommented.of_cons {c : Char} (hc : c ≠ '/') {s code : List Char}
    (h : Uncommented (c :: s) code) : ∃ more, code = c :: more ∧ Uncommented s more := by
  cases h with
  | code _ _ more => exact ⟨_, rfl, more⟩
  | comment => exact absurd rfl hc

/-- A character that is put behind a text and is not the star of a comment is code. -/
theorem Uncommented.concat {a code : List Char} (h : Uncommented a code) {c : Char}
    (hc : c ≠ '*') : Uncommented (a ++ [c]) (code ++ [c]) := by
  induction h with
  | nil => exact .code c (by simp) .nil
  | @code d text code h _ ih =>
    refine .code d ?_ ih
    rintro ⟨rest, hrest⟩
    cases text with
    | nil =>
      obtain ⟨-, hstar, -⟩ : '/' = d ∧ '*' = c ∧ rest = [] := by simpa using hrest
      exact hc hstar.symm
    | cons e text =>
      obtain ⟨rfl, rfl, -⟩ : '/' = d ∧ '*' = e ∧ rest = text ++ [c] := by simpa using hrest
      exact h ⟨text, rfl⟩
  | comment body h _ ih => simpa using Uncommented.comment body h ih

/-! ## Addresses -/

/-- Every address that opens in a text is closed in it. -/
def AddressesClosed (s : List Char) : Prop :=
  ∀ lead rest, lead ++ rest <:+ s → OpensAddress lead → ')' ∈ rest

theorem AddressesClosed.suffix {s t : List Char} (h : AddressesClosed s) (ht : t <:+ s) :
    AddressesClosed t :=
  fun lead rest hin hlead => h lead rest (hin.trans ht) hlead

/-- A character that stands neither in the marks of comments nor in what an
address begins and ends with. -/
structure Border (c : Char) : Prop where
  slash : c ≠ '/'
  star : c ≠ '*'
  brackets : c ∉ ['(', ')']
  blank : isBlank c = false
  letter : lowerChar c ∉ ['u', 'r', 'l']

instance (c : Char) : Decidable (Border c) :=
  decidable_of_iff (c ≠ '/' ∧ c ≠ '*' ∧ c ∉ ['(', ')'] ∧ isBlank c = false ∧
      lowerChar c ∉ ['u', 'r', 'l'])
    ⟨fun ⟨h₁, h₂, h₃, h₄, h₅⟩ => ⟨h₁, h₂, h₃, h₄, h₅⟩,
      fun ⟨h₁, h₂, h₃, h₄, h₅⟩ => ⟨h₁, h₂, h₃, h₄, h₅⟩⟩

theorem OpensAddress.char {lead : List Char} (h : OpensAddress lead) {c : Char} (hc : c ∈ lead) :
    lowerChar c ∈ ['u', 'r', 'l'] ∨ isBlank c = true ∨ c = '(' := by
  obtain ⟨word, blanks, rfl, hword, hblanks⟩ := h
  rcases List.mem_append.mp hc with hc | hc
  · exact Or.inl (hword ▸ List.mem_map_of_mem hc)
  · rcases List.mem_append.mp hc with hc | hc
    · exact Or.inr (Or.inl (hblanks c hc))
    · exact Or.inr (Or.inr (List.mem_singleton.mp hc))

theorem OpensAddress.not_border {lead : List Char} (h : OpensAddress lead) {c : Char}
    (hc : c ∈ lead) : ¬Border c := by
  intro hborder
  rcases h.char hc with hletter | hblank | rfl
  · exact hborder.letter hletter
  · simp [hborder.blank] at hblank
  · exact hborder.brackets (by simp)

theorem OpensAddress.close_not_mem {lead : List Char} (h : OpensAddress lead) : ')' ∉ lead :=
  fun hc => absurd (h.char hc) (by decide)

/-- No address can open across the place where two texts meet. -/
def Seam (a b : List Char) : Prop :=
  a = [] ∨ (∃ c ∈ a.getLast?, Border c) ∨ ∃ c ∈ b.head?, Border c

theorem Seam.tail {c : Char} {a b : List Char} (h : Seam (c :: a) b) : Seam a b := by
  cases a with
  | nil => exact Or.inl rfl
  | cons d a =>
    rcases h with h | h | h
    · exact absurd h (List.cons_ne_nil _ _)
    · exact Or.inr (Or.inl (by simpa [List.getLast?_cons_cons] using h))
    · exact Or.inr (Or.inr h)

/-- What begins like an address before the seam does so without what is behind it. -/
theorem Seam.opening {a b lead rest : List Char} (h : Seam a b) (ha : a ≠ [])
    (hlead : OpensAddress lead) (heq : a ++ b = lead ++ rest) :
    ∃ more, a = lead ++ more ∧ rest = more ++ b := by
  rcases List.append_eq_append_iff.mp heq with ⟨beyond, hbeyond, hb⟩ | ⟨more, hmore, hrest⟩
  · cases beyond with
    | nil => exact ⟨[], by simpa using hbeyond.symm, by simpa using hb.symm⟩
    | cons d beyond =>
      rcases h with h | ⟨c, hc, hborder⟩ | ⟨c, hc, hborder⟩
      · exact absurd h ha
      · refine absurd hborder (hlead.not_border ?_)
        rw [hbeyond]
        exact List.mem_append_left _ (List.mem_of_getLast? hc)
      · refine absurd hborder (hlead.not_border ?_)
        rw [hb] at hc
        obtain rfl : d = c := by simpa using hc
        simp [hbeyond]
  · exact ⟨more, hmore, hrest⟩

theorem startsUrl_append {a b : List Char} (hseam : Seam a b) (ha : a ≠ [])
    (hclosed : AddressesClosed a) : startsUrl (a ++ b) = startsUrl a := by
  rw [Bool.eq_iff_iff, startsUrl_iff, startsUrl_iff]
  constructor
  · rintro ⟨lead, rest, heq, hlead, -⟩
    obtain ⟨more, rfl, -⟩ := hseam.opening ha hlead heq
    exact ⟨lead, more, rfl, hlead, hclosed lead more (List.suffix_refl _) hlead⟩
  · rintro ⟨lead, rest, rfl, hlead, hclose⟩
    exact ⟨lead, rest ++ b, by simp, hlead, List.mem_append_left _ hclose⟩

/-- An address that is found here is closed behind its first character. -/
theorem close_mem_of_startsUrl {c : Char} {r : List Char} (h : startsUrl (c :: r) = true) :
    ')' ∈ r := by
  obtain ⟨lead, rest, heq, hlead, hclose⟩ := startsUrl_iff.mp h
  cases lead with
  | nil => exact absurd rfl hlead.ne_nil
  | cons d lead =>
    obtain ⟨rfl, rfl⟩ := List.cons.inj heq
    exact List.mem_append_right _ hclose

theorem stripUrlsFrom_append {a b : List Char} (hseam : Seam a b) (hclosed : AddressesClosed a)
    (inside : Bool) (hinside : inside = true → ')' ∈ a) :
    stripUrlsFrom inside (a ++ b) = stripUrlsFrom inside a ++ stripUrls b := by
  induction a generalizing inside with
  | nil =>
    cases inside with
    | false => rfl
    | true => simpa using hinside rfl
  | cons c r ih =>
    have hmore := ih hseam.tail (hclosed.suffix (List.suffix_cons c r))
    cases inside with
    | true =>
      rw [List.cons_append, stripUrlsFrom, stripUrlsFrom]
      refine hmore _ fun hc => ?_
      exact (List.mem_cons.mp (hinside rfl)).resolve_left (bne_iff_ne.mp hc).symm
    | false =>
      have hstarts := startsUrl_append hseam (List.cons_ne_nil c r) hclosed
      rw [List.cons_append] at hstarts
      rw [List.cons_append, stripUrlsFrom, stripUrlsFrom, hstarts]
      split
      · rename_i h
        exact hmore true fun _ => close_mem_of_startsUrl h
      · rw [hmore false (by simp), List.cons_append]

/-- Addresses are taken out of both texts if those of the first are closed in it
and none opens across the seam. -/
theorem stripUrls_append {a b : List Char} (hseam : Seam a b) (hclosed : AddressesClosed a) :
    stripUrls (a ++ b) = stripUrls a ++ stripUrls b :=
  stripUrlsFrom_append hseam hclosed false (by simp)

theorem stripUrls_cons {c : Char} (hc : Border c) (s : List Char) :
    stripUrls (c :: s) = c :: stripUrls s := by
  have haddress : ¬startsUrl (c :: s) = true := by
    intro hstarts
    obtain ⟨lead, rest, heq, hlead, -⟩ := startsUrl_iff.mp hstarts
    obtain ⟨d, lead, rfl⟩ := List.exists_cons_of_ne_nil hlead.ne_nil
    obtain ⟨rfl, -⟩ := List.cons.inj heq
    exact hlead.not_border (List.mem_cons_self ..) hc
  rw [stripUrls, stripUrlsFrom, if_neg haddress]
  rfl

/-- Whether the addresses of a text are closed shows where one would be found if
a closing bracket stood at the end. -/
theorem addressesClosed_iff {s : List Char} :
    (∀ k ∈ List.range (s.length + 1),
      startsUrl (s.drop k ++ [')']) = true → startsUrl (s.drop k) = true) ↔ AddressesClosed s := by
  constructor
  · intro h lead rest hin hlead
    have hdrop := List.suffix_iff_eq_drop.mp hin
    have hfound := h (s.length - (lead ++ rest).length) (List.mem_range.mpr (by omega))
    rw [← hdrop] at hfound
    have hopen : startsUrl (lead ++ rest ++ [')']) = true :=
      startsUrl_iff.mpr ⟨lead, rest ++ [')'], by simp, hlead, by simp⟩
    obtain ⟨lead', rest', heq, -, hclose⟩ := startsUrl_iff.mp (hfound hopen)
    have hmem : ')' ∈ lead ++ rest := heq ▸ List.mem_append_right _ hclose
    exact (List.mem_append.mp hmem).resolve_left hlead.close_not_mem
  · intro h k _ hstarts
    obtain ⟨lead, rest, heq, hlead, -⟩ := startsUrl_iff.mp hstarts
    rcases List.append_eq_append_iff.mp heq with ⟨beyond, hbeyond, hend⟩ | ⟨more, hmore, -⟩
    · cases beyond with
      | nil =>
        have hnone := h lead [] (by simpa [hbeyond] using List.drop_suffix k s) hlead
        simp at hnone
      | cons d beyond =>
        obtain ⟨rfl, -⟩ : ')' = d ∧ _ := List.cons.inj hend
        exact absurd (by simp [hbeyond]) hlead.close_not_mem
    · refine startsUrl_iff.mpr ⟨lead, more, hmore, hlead, h lead more ?_ hlead⟩
      rw [← hmore]
      exact List.drop_suffix k s

instance (s : List Char) : Decidable (AddressesClosed s) := decidable_of_iff _ addressesClosed_iff

/-- A border in front or behind opens no address and closes none. -/
theorem addressesClosed_cons {c : Char} (hc : Border c) {s : List Char} :
    AddressesClosed (c :: s) ↔ AddressesClosed s := by
  refine ⟨fun h => h.suffix (List.suffix_cons c s), fun h lead rest hin hlead => ?_⟩
  rcases List.suffix_cons_iff.mp hin with heq | hin
  · cases lead with
    | nil => exact absurd rfl hlead.ne_nil
    | cons d lead =>
      obtain ⟨rfl, -⟩ := List.cons.inj heq
      exact absurd hc (hlead.not_border (List.mem_cons_self ..))
  · exact h lead rest hin hlead

theorem addressesClosed_concat {c : Char} (hc : Border c) {s : List Char} :
    AddressesClosed (s ++ [c]) ↔ AddressesClosed s := by
  constructor
  · intro h lead rest ⟨front, hfront⟩ hlead
    have hclose := h lead (rest ++ [c]) ⟨front, by simp [← hfront]⟩ hlead
    rcases List.mem_append.mp hclose with hclose | hclose
    · exact hclose
    · exact absurd (List.mem_singleton.mp hclose) fun heq => hc.brackets (by simp [← heq])
  · intro h lead rest ⟨front, hfront⟩ hlead
    rcases List.eq_nil_or_concat rest with rfl | ⟨init, d, rfl⟩
    · -- then the border would be the bracket that ends the opening
      obtain ⟨init, d, hd⟩ := (List.eq_nil_or_concat lead).resolve_left hlead.ne_nil
      have hsplit : front ++ init ++ [d] = s ++ [c] := by simpa [hd] using hfront
      obtain ⟨-, hlast⟩ := List.append_inj' hsplit rfl
      obtain rfl : d = c := by simpa using hlast
      exact absurd hc (hlead.not_border (by simp [hd]))
    · have hsplit : front ++ (lead ++ init) ++ [d] = s ++ [c] := by simpa using hfront
      obtain ⟨rfl, -⟩ := List.append_inj' hsplit rfl
      have hclose := h lead init (List.suffix_append _ _) hlead
      simp [hclose]

/-! ## Cleaning -/

/-- A text closes its comments, and its addresses outside them. -/
structure Closed (s : List Char) : Prop where
  comments : ∃ code, Uncommented s code
  addresses : AddressesClosed (stripComments s)

/-- To begin and to end with borders changes nothing for what is between them. -/
theorem closed_cons {c : Char} (hc : Border c) {s : List Char} : Closed (c :: s) ↔ Closed s := by
  have hcomments : (∃ code, Uncommented (c :: s) code) ↔ ∃ code, Uncommented s code := by
    constructor
    · rintro ⟨code, h⟩
      obtain ⟨more, -, hmore⟩ := h.of_cons hc.slash
      exact ⟨more, hmore⟩
    · rintro ⟨code, h⟩
      exact ⟨c :: code, .code c (by simpa using fun heq => absurd heq.symm hc.slash) h⟩
  have haddresses : AddressesClosed (stripComments (c :: s)) ↔
      AddressesClosed (stripComments s) := by
    rw [stripComments_cons hc.slash, addressesClosed_cons hc]
  exact ⟨fun h => ⟨hcomments.mp h.comments, haddresses.mp h.addresses⟩,
    fun h => ⟨hcomments.mpr h.comments, haddresses.mpr h.addresses⟩⟩

theorem closed_concat {c : Char} (hc : Border c) {s : List Char} :
    Closed (s ++ [c]) ↔ Closed s := by
  constructor
  · rintro ⟨⟨_, h⟩, haddresses⟩
    obtain ⟨code, rfl, hcode⟩ := h.of_concat hc.slash
    rw [stripComments_uncommented h, addressesClosed_concat hc] at haddresses
    exact ⟨⟨code, hcode⟩, by rwa [stripComments_uncommented hcode]⟩
  · rintro ⟨⟨code, h⟩, haddresses⟩
    rw [stripComments_uncommented h, ← addressesClosed_concat hc] at haddresses
    have hconcat := h.concat hc.star
    exact ⟨⟨_, hconcat⟩, by rwa [stripComments_uncommented hconcat]⟩

theorem clean_cons {c : Char} (hc : Border c) (s : List Char) : clean (c :: s) = c :: clean s := by
  rw [clean, stripComments_cons hc.slash, stripUrls_cons hc, clean]

theorem Closed.clean_concat {s : List Char} (h : Closed s) {c : Char} (hc : Border c) :
    clean (s ++ [c]) = clean s ++ [c] := by
  obtain ⟨⟨code, hcode⟩, haddresses⟩ := h
  rw [stripComments_uncommented hcode] at haddresses
  rw [clean, clean, stripComments_uncommented hcode, stripComments_uncommented (hcode.concat hc.star),
    stripUrls_append (Or.inr (Or.inr ⟨c, rfl, hc⟩)) haddresses]
  rw [stripUrls_cons hc]
  rfl

/-- A text that closes what it opens and ends with a border is cleaned by itself. -/
theorem Closed.clean_append {s : List Char} {c : Char} (h : Closed (s ++ [c])) (hc : Border c)
    (b : List Char) : clean (s ++ [c] ++ b) = clean (s ++ [c]) ++ clean b := by
  obtain ⟨⟨_, hcode⟩, haddresses⟩ := h
  obtain ⟨code, rfl, -⟩ := hcode.of_concat hc.slash
  have hstrip := stripComments_uncommented hcode
  rw [hstrip] at haddresses
  rw [clean, clean, clean, stripComments_append hcode (by simpa using fun _ _ => hc.slash), hstrip]
  exact stripUrls_append (Or.inr (Or.inl ⟨c, by simp, hc⟩)) haddresses

/-! ## Preludes -/

theorem current_read {k : Collector} (h : 0 < k.depth → k.current = []) (c : Char) :
    0 < (k.read c).depth → (k.read c).current = [] := by
  unfold Collector.read
  split
  · split
    · exact fun _ => rfl
    · intro hpos
      have hdepth : 0 < k.depth + 1 := hpos
      exact h (by omega)
  · split
    · intro hpos
      have hdepth : 0 < k.depth - 1 := hpos
      exact h (by omega)
    · split
      · intro hpos
        have hdepth : 0 < k.depth := hpos
        omega
      · exact h

theorem current_foldl (s : List Char) {k : Collector} (h : 0 < k.depth → k.current = []) :
    0 < (s.foldl Collector.read k).depth → (s.foldl Collector.read k).current = [] := by
  induction s generalizing k with
  | nil => exact h
  | cons c r ih => exact ih (current_read h c)

/-- The preludes of two texts: those of the second are collected from the state
in which the first leaves the loop. -/
theorem preludes_append_from (a b : List Char) :
    preludes (a ++ b) = preludes a ++
      preludesFrom (net a) (a.foldl Collector.read {}).current.reverse b := by
  have hfirst := foldl_read a {}
  have hboth := foldl_read (a ++ b) {}
  rw [List.foldl_append, foldl_read, depth_foldl] at hboth
  simp only [List.reverse_nil, List.nil_append, Int.zero_add] at hfirst hboth
  rw [hfirst] at hboth
  exact hboth.symm

/-- **The seam of two sheets.** A text that ends at depth zero with a closing
brace leaves no prelude unfinished. -/
theorem preludes_append {a : List Char} (h : net (a ++ ['}']) = 0) (b : List Char) :
    preludes (a ++ ['}'] ++ b) = preludes (a ++ ['}']) ++ preludes b := by
  have hdepth : (a.foldl Collector.read {}).depth = 1 := by
    rw [depth_foldl]
    simp only [net_append, net_close, net_nil] at h
    simp only
    omega
  have hcurrent : (a.foldl Collector.read {}).current = [] :=
    current_foldl a (by simp) (by omega)
  have hlast : ((a ++ ['}']).foldl Collector.read {}).current = [] := by
    rw [List.foldl_append]
    simpa [Collector.read] using hcurrent
  rw [preludes_append_from, h, hlast]
  rfl

end SiteAudit.Stylesheet
