import SiteAudit.Proofs.Stylesheet.Agreement
import SiteAudit.Proofs.Stylesheet.Names

/-!
# What a list of rules defines

A list of rules is a text `s₁{b₁}s₂{b₂}…sₙ{bₙ}t` with balanced bodies `bᵢ` and no
brace in the selectors `sᵢ` and in the tail `t`. With comments put in anywhere,
also into a name, it defines the names in its selectors, and no others.

* `startsUrl_iff`: where the search for addresses begins to skip, as a fact about
  the text.
* `WithComments.uncommented`: comments that are put into a text without comments
  are the comments of the result.
* `rule_list_defines_selectors`: what such a text defines.
-/
namespace SiteAudit.Stylesheet

open Text Markup References

/-! ## Addresses -/

/-- What an address begins with: the word `url` in any case, blanks and an
opening bracket. -/
def OpensAddress (lead : List Char) : Prop :=
  ∃ word blanks, lead = word ++ (blanks ++ ['(']) ∧ word.map lowerChar = ['u', 'r', 'l'] ∧
    ∀ c ∈ blanks, isBlank c = true

/-- An address ends at the first closing bracket. -/
def IsAddress (piece : List Char) : Prop :=
  ∃ lead inner, piece = lead ++ (inner ++ [')']) ∧ OpensAddress lead ∧ ')' ∉ inner

theorem OpensAddress.bracket {lead : List Char} (h : OpensAddress lead) : '(' ∈ lead := by
  obtain ⟨word, blanks, rfl, -⟩ := h
  simp

theorem OpensAddress.ne_nil {lead : List Char} (h : OpensAddress lead) : lead ≠ [] :=
  List.ne_nil_of_mem h.bracket

theorem IsAddress.bracket {piece : List Char} (h : IsAddress piece) : '(' ∈ piece := by
  obtain ⟨lead, inner, rfl, hlead, -⟩ := h
  exact List.mem_append_left _ hlead.bracket

theorem folds_eq {letter : Char} (h : letter ∉ ['s', 'i', 'k']) (c : Char) :
    Tag.folds letter c = (lowerChar c == letter) := by
  simp only [List.mem_cons, List.not_mem_nil, or_false, not_or, ← beq_eq_false_iff_ne] at h
  obtain ⟨hs, hi, hk⟩ := h
  simp [Tag.folds, hs, hi, hk]

theorem afterWord?_eq_some_iff {word s rest : List Char}
    (h : ∀ letter ∈ word, letter ∉ ['s', 'i', 'k']) :
    Tag.afterWord? word s = some rest ↔
      ∃ front, s = front ++ rest ∧ front.map lowerChar = word := by
  induction word generalizing s with
  | nil =>
    constructor
    · intro hs
      exact ⟨[], by simpa [Tag.afterWord?] using hs, rfl⟩
    · rintro ⟨front, rfl, hfront⟩
      simp [Tag.afterWord?, List.map_eq_nil_iff.mp hfront]
  | cons letter word ih =>
    obtain ⟨hletter, hword⟩ := List.forall_mem_cons.mp h
    cases s with
    | nil => simp [Tag.afterWord?]
    | cons c s =>
      rw [Tag.afterWord?, folds_eq hletter]
      by_cases hc : lowerChar c = letter
      · rw [if_pos (by simpa using hc), ih hword]
        constructor
        · rintro ⟨front, rfl, hfront⟩
          exact ⟨c :: front, rfl, by rw [List.map_cons, hc, hfront]⟩
        · rintro ⟨front, hs, hfront⟩
          obtain ⟨d, front, rfl⟩ : ∃ d more, front = d :: more := by
            cases front with
            | nil => simp at hfront
            | cons d more => exact ⟨d, more, rfl⟩
          obtain ⟨rfl, rfl⟩ := List.cons.inj hs
          exact ⟨front, rfl, (List.cons.inj hfront).2⟩
      · rw [if_neg (by simpa using hc)]
        refine ⟨fun hnone => by simp at hnone, ?_⟩
        rintro ⟨front, hs, hfront⟩
        cases front with
        | nil => simp at hfront
        | cons d front =>
          obtain ⟨rfl, -⟩ := List.cons.inj hs
          exact absurd (List.cons.inj hfront).1 hc

/-- **Where addresses are found.** What begins like one is one if a closing
bracket follows anywhere. -/
theorem startsUrl_iff {s : List Char} :
    startsUrl s = true ↔ ∃ lead rest, s = lead ++ rest ∧ OpensAddress lead ∧ ')' ∈ rest := by
  have hletters : ∀ letter ∈ ['u', 'r', 'l'], letter ∉ ['s', 'i', 'k'] := by simp
  constructor
  · intro h
    unfold startsUrl at h
    split at h
    · simp at h
    · rename_i behind hbehind
      obtain ⟨word, rfl, hword⟩ := (afterWord?_eq_some_iff hletters).mp hbehind
      split at h
      · rename_i body hbody
        refine ⟨word ++ (behind.takeWhile isBlank ++ ['(']), body, ?_, ⟨word, _, rfl, hword, ?_⟩, ?_⟩
        · have hsplit := List.takeWhile_append_dropWhile (p := isBlank) (l := behind)
          rw [show behind.dropWhile isBlank = '(' :: body from hbody] at hsplit
          simp [hsplit]
        · exact fun c hc => List.all_eq_true.mp List.all_takeWhile c hc
        · simpa using h
      · simp at h
  · rintro ⟨lead, rest, rfl, ⟨word, blanks, rfl, hword, hblanks⟩, hclose⟩
    have hbehind : Tag.afterWord? ['u', 'r', 'l'] (word ++ (blanks ++ ['(']) ++ rest) =
        some (blanks ++ '(' :: rest) :=
      (afterWord?_eq_some_iff hletters).mpr ⟨word, by simp, hword⟩
    have htrim : trimStart (blanks ++ '(' :: rest) = '(' :: rest := by
      rw [trimStart, trimStartBy, List.dropWhile_append_of_pos hblanks,
        List.dropWhile_cons_of_neg (by decide)]
    simp only [startsUrl, hbehind, htrim]
    simpa using hclose

/-- A text that holds no address is not changed by taking the addresses out. -/
theorem stripUrls_of_no_address {s : List Char} (h : ∀ piece, piece <:+: s → ¬IsAddress piece) :
    stripUrls s = s := by
  refine stripUrls_eq_self fun t ht => ?_
  rw [Bool.eq_false_iff]
  intro hstarts
  obtain ⟨lead, rest, rfl, hlead, hclose⟩ := startsUrl_iff.mp hstarts
  obtain ⟨inner, behind, rfl, hinner⟩ := List.eq_append_cons_of_mem hclose
  refine h (lead ++ (inner ++ [')'])) (List.IsInfix.trans ?_ ht.isInfix) ⟨_, _, rfl, hlead, hinner⟩
  exact ⟨[], behind, by simp⟩

/-! ## Comments put into a text -/

/-- `WithComments text sheet`: `sheet` is `text` with comments put in, any number
of them at each place. The body of a comment does not hold its end. -/
inductive WithComments : List Char → List Char → Prop where
  | nil : WithComments [] []
  | char (c : Char) {text sheet : List Char} (more : WithComments text sheet) :
      WithComments (c :: text) (c :: sheet)
  | comment (body : List Char) {text sheet : List Char} (h : ¬['*', '/'] <:+: body)
      (more : WithComments text sheet) :
      WithComments text ('/' :: '*' :: (body ++ '*' :: '/' :: sheet))

theorem WithComments.behind (front : List Char) {text sheet : List Char}
    (h : WithComments text sheet) : WithComments (front ++ text) (front ++ sheet) := by
  induction front with
  | nil => exact h
  | cons c front ih => exact .char c ih

/-- Comments begin with a slash, so a star in front was in front before. -/
theorem WithComments.star {text sheet : List Char} (h : WithComments text ('*' :: sheet)) :
    ∃ more, text = '*' :: more := by
  cases h with
  | char _ more => exact ⟨_, rfl⟩

theorem WithComments.uncommented {text sheet : List Char} (h : WithComments text sheet)
    (htext : ¬['/', '*'] <:+: text) : Uncommented sheet text := by
  induction h with
  | nil => exact .nil
  | @char c text sheet more ih =>
    refine .code c ?_ (ih fun hin => htext (hin.trans (List.suffix_cons c text).isInfix))
    -- a comment that began here would be in the text itself
    rintro ⟨rest, hrest⟩
    obtain ⟨rfl, rfl⟩ : '/' = c ∧ '*' :: rest = sheet := by simpa using hrest
    obtain ⟨behind, rfl⟩ := more.star
    exact htext ⟨[], behind, rfl⟩
  | comment body hbody _ ih => exact .comment body hbody (ih htext)

/-! ## Rules -/

/-- **A list of rules defines the names in its selectors**, however its text is
cut by comments: no other part of it defines a name, no name goes from one
selector to the next, and what was defined before stays defined. -/
theorem rule_list_defines_selectors (d : Definitions) {blocks : List Block}
    {tail sheet : List Char} (hblocks : ∀ b ∈ blocks, b.Sound) (htail : BraceFree tail)
    (hcomments : ¬['/', '*'] <:+: blocks.flatMap Block.text ++ tail)
    (haddresses : ∀ piece, piece <:+: blocks.flatMap Block.text ++ tail → ¬IsAddress piece)
    (hsheet : WithComments (blocks.flatMap Block.text ++ tail) sheet) :
    (∀ name, name ∈ (d.addSheet sheet).classes ↔
      name ∈ d.classes ∨ ∃ b ∈ blocks, NameBehind '.' startsClassName b.selector name.toList) ∧
    (∀ name, name ∈ (d.addSheet sheet).ids ↔
      name ∈ d.ids ∨ ∃ b ∈ blocks, NameBehind '#' startsIdName b.selector name.toList) := by
  have hclean : clean sheet = blocks.flatMap Block.text ++ tail := by
    rw [clean, stripComments_uncommented (hsheet.uncommented hcomments),
      stripUrls_of_no_address haddresses]
  have hdefines : ∀ kind name, defines (d.addSheet sheet) kind name = true ↔
      defines d kind name = true ∨ ∃ b ∈ blocks, Names kind b.selector name := by
    intro kind name
    rw [defines_addSheet, hclean, preludes_blocks hblocks htail]
    refine or_congr_right ⟨?_, fun ⟨b, hb, hname⟩ => ⟨_, List.mem_map_of_mem hb, hname⟩⟩
    rintro ⟨p, hp, hname⟩
    obtain ⟨b, hb, rfl⟩ := List.mem_map.mp hp
    exact ⟨b, hb, hname⟩
  exact ⟨fun name => by simpa [defines, Names] using hdefines .cls name,
    fun name => by simpa [defines, Names] using hdefines .id name⟩

/-- Three rules, one of them around another. -/
def cardRules : List Block :=
  [⟨".card,#top".toList, "x".toList⟩, ⟨"@media".toList, ".in\x7bx\x7d".toList⟩,
    ⟨".e.5".toList, []⟩]

/-- A comment in the middle of a name, one in a body and one before the tail. -/
theorem cardRules_cut :
    let sheet :=
      ".c/*\x7d*/ard,#top\x7bx\x7d@media\x7b.in\x7bx/**/\x7d\x7d.e.5\x7b\x7d/*.z\x7b*/.t".toList
    (∀ b ∈ cardRules, b.Sound) ∧
    WithComments (cardRules.flatMap Block.text ++ ".t".toList) sheet ∧
    (∀ name, name ∈ (Definitions.addSheet { classes := ["old"] } sheet).classes ↔
      name ∈ ["old"] ∨
        ∃ b ∈ cardRules, NameBehind '.' startsClassName b.selector name.toList) ∧
    Definitions.addSheet { classes := ["old"] } sheet =
      { classes := ["old", "card", "e"], ids := ["top"] } := by
  intro sheet
  have hsound : ∀ b ∈ cardRules, b.Sound := by decide +kernel
  have hsheet : WithComments (cardRules.flatMap Block.text ++ ".t".toList) sheet := by
    have hcut := WithComments.behind ".c".toList (.comment "\x7d".toList (by decide +kernel)
      (.behind "ard,#top\x7bx\x7d@media\x7b.in\x7bx".toList (.comment [] (by decide +kernel)
        (.behind "\x7d\x7d.e.5\x7b\x7d".toList (.comment ".z\x7b".toList (by decide +kernel)
          (.behind ".t".toList .nil))))))
    exact hcut
  have hbracket : '(' ∉ cardRules.flatMap Block.text ++ ".t".toList := by decide +kernel
  have hdefines := rule_list_defines_selectors { classes := ["old"] } hsound
    (by decide +kernel) (by decide +kernel) (fun piece hin hpiece =>
      hbracket (hin.subset hpiece.bracket)) hsheet
  exact ⟨hsound, hsheet, hdefines.1, by decide +kernel⟩

end SiteAudit.Stylesheet
