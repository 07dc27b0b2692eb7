import SiteAudit.Proofs.References.Report
import SiteAudit.Proofs.Stylesheet.Blocks

/-!
# The names in the selectors of a stylesheet

The search for definitions joins all selectors of a stylesheet into one text
and looks for names behind dots and hashes in it. Nothing of this joining shows:
the space between two selectors belongs to no name, so what is found is what
every selector holds by itself.

* `mem_namesBehind`: the names that are found are those that are written in the
  text, each as long as it can be.
* `namesBehind_join`: the names of joined texts are the names of the texts.
* `defines_addSheet`: what a stylesheet defines, from its preludes.
-/
namespace SiteAudit.Stylesheet

open Markup References

/-! ## Written names -/

/-- `name` is written in `text` behind a `mark`: it begins with a character that
may begin it, and it goes on as far as there are characters of names. -/
def NameBehind (mark : Char) (starts : Char → Bool) (text name : List Char) : Prop :=
  ∃ before first tail rest, text = before ++ mark :: first :: (tail ++ rest) ∧
    starts first = true ∧ (∀ c ∈ tail, isNameChar c = true) ∧
    (∀ c ∈ rest.head?, isNameChar c = false) ∧ name = first :: tail

theorem takeWhile_name {tail rest : List Char} (htail : ∀ c ∈ tail, isNameChar c = true)
    (hrest : ∀ c ∈ rest.head?, isNameChar c = false) :
    (tail ++ rest).takeWhile isNameChar = tail := by
  rw [List.takeWhile_append_of_pos htail]
  cases rest with
  | nil => simp
  | cons c r => simp [hrest c rfl]

theorem nameBehind_cons {mark c d : Char} {starts : Char → Bool} {t name : List Char} :
    NameBehind mark starts (c :: d :: t) name ↔
      (c = mark ∧ starts d = true ∧ name = d :: t.takeWhile isNameChar) ∨
        NameBehind mark starts (d :: t) name := by
  constructor
  · rintro ⟨before, first, tail, rest, htext, hfirst, htail, hrest, rfl⟩
    cases before with
    | nil =>
      obtain ⟨rfl, rfl, rfl⟩ : c = mark ∧ d = first ∧ t = tail ++ rest := by simpa using htext
      exact Or.inl ⟨rfl, hfirst, by rw [takeWhile_name htail hrest]⟩
    | cons b before =>
      obtain ⟨rfl, hmore⟩ := List.cons.inj htext
      exact Or.inr ⟨before, first, tail, rest, hmore, hfirst, htail, hrest, rfl⟩
  · rintro (⟨rfl, hfirst, rfl⟩ | ⟨before, first, tail, rest, htext, hname⟩)
    · refine ⟨[], d, t.takeWhile isNameChar, t.dropWhile isNameChar, ?_, hfirst, ?_, ?_, rfl⟩
      · simp [List.takeWhile_append_dropWhile]
      · exact fun c hc => List.all_eq_true.mp List.all_takeWhile c hc
      · intro c hc
        have hhead := List.head?_dropWhile_not isNameChar t
        rw [Option.mem_def.mp hc] at hhead
        simpa using hhead
    · exact ⟨c :: before, first, tail, rest, by rw [htext, List.cons_append], hname⟩

/-- **The names that are found are those that are written.** -/
theorem mem_namesBehind {mark : Char} {starts : Char → Bool} {s name : List Char} :
    name ∈ namesBehind mark starts s ↔ NameBehind mark starts s name := by
  induction s with
  | nil => simp [namesBehind, NameBehind]
  | cons c r ih =>
    cases r with
    | nil =>
      refine ⟨by simp [namesBehind], ?_⟩
      rintro ⟨before, first, tail, rest, htext, -⟩
      have := congrArg List.length htext
      simp only [List.length_append, List.length_cons, List.length_nil] at this
      omega
    | cons d t =>
      rw [nameBehind_cons, ← ih, namesBehind]
      by_cases h : c = mark ∧ starts d = true
      · simp [h]
      · have hif : ¬(c = mark && starts d) = true := by simpa using h
        rw [if_neg hif]
        refine ⟨Or.inr, ?_⟩
        rintro (⟨hc, hd, -⟩ | hmem)
        · exact absurd ⟨hc, hd⟩ h
        · exact hmem

/-! ## Joined texts -/

/-- A character that separates: neither the mark nor in a name. -/
structure Separates (mark : Char) (starts : Char → Bool) (sep : Char) : Prop where
  mark : sep ≠ mark
  first : starts sep = false
  inside : isNameChar sep = false

/-- **Names end at a separator**, so they are found on its two sides apart. -/
theorem namesBehind_separated {mark sep : Char} {starts : Char → Bool}
    (h : Separates mark starts sep) (a b : List Char) :
    namesBehind mark starts (a ++ sep :: b) =
      namesBehind mark starts a ++ namesBehind mark starts b := by
  have hfront : namesBehind mark starts (sep :: b) = namesBehind mark starts b := by
    cases b with
    | nil => rfl
    | cons d t => simp [namesBehind, h.mark]
  induction a with
  | nil => exact hfront
  | cons c r ih =>
    cases r with
    | nil => simpa [namesBehind, h.first] using hfront
    | cons d t =>
      have hname : (t ++ sep :: b).takeWhile isNameChar = t.takeWhile isNameChar := by
        rw [List.takeWhile_append, List.takeWhile_cons_of_neg (by simp [h.inside]),
          List.append_nil]
        split
        · rename_i hlength
          exact ((List.takeWhile_prefix isNameChar).eq_of_length hlength).symm
        · rfl
      simp only [List.cons_append] at ih ⊢
      rw [namesBehind, namesBehind, ih, hname]
      split <;> rfl

theorem namesBehind_join {mark : Char} {starts : Char → Bool} (h : Separates mark starts ' ')
    (texts : List (List Char)) :
    namesBehind mark starts ([' '].intercalate texts) = texts.flatMap (namesBehind mark starts) := by
  induction texts with
  | nil => rfl
  | cons a more ih =>
    cases more with
    | nil => simp
    | cons b more =>
      rw [List.intercalate_cons_cons, List.append_assoc, List.flatMap_cons, ← ih]
      exact namesBehind_separated h a _

/-! ## What a stylesheet defines -/

/-- The names of a kind that a selector holds. -/
def namesOf : SelectorKind → List Char → List String
  | .cls => classNames
  | .id => idNames

/-- What it is for a selector to hold a name of a kind. -/
def Names : SelectorKind → List Char → String → Prop
  | .cls, text, name => NameBehind '.' startsClassName text name.toList
  | .id, text, name => NameBehind '#' startsIdName text name.toList

theorem mem_map_ofList {names : List (List Char)} {name : String} :
    name ∈ names.map String.ofList ↔ name.toList ∈ names := by
  rw [List.mem_map]
  constructor
  · rintro ⟨cs, hcs, rfl⟩
    simpa using hcs
  · exact fun h => ⟨name.toList, h, String.ofList_toList⟩

theorem mem_namesOf {kind : SelectorKind} {text : List Char} {name : String} :
    name ∈ namesOf kind text ↔ Names kind text name := by
  cases kind with
  | cls => exact mem_map_ofList.trans mem_namesBehind
  | id => exact mem_map_ofList.trans mem_namesBehind

theorem namesOf_selectorText (kind : SelectorKind) (sheet : List Char) :
    namesOf kind (selectorText sheet) = (preludes (clean sheet)).flatMap (namesOf kind) := by
  cases kind with
  | cls =>
    simp only [namesOf, classNames, selectorText]
    rw [namesBehind_join ⟨by decide, by decide, by decide⟩, List.map_flatMap]
    rfl
  | id =>
    simp only [namesOf, idNames, selectorText]
    rw [namesBehind_join ⟨by decide, by decide, by decide⟩, List.map_flatMap]
    rfl

/-- **A stylesheet defines the names in its preludes**, and what is defined
already stays so. -/
theorem defines_addSheet {d : Definitions} {sheet : List Char} {kind : SelectorKind}
    {name : String} :
    defines (d.addSheet sheet) kind name = true ↔
      defines d kind name = true ∨ ∃ p ∈ preludes (clean sheet), Names kind p name := by
  have hsheet : defines (d.addSheet sheet) kind name =
      (defines d kind name || (namesOf kind (selectorText sheet)).contains name) := by
    cases kind <;> exact contains_insertNames ..
  rw [hsheet, Bool.or_eq_true, List.contains_iff_mem, namesOf_selectorText, List.mem_flatMap]
  simp only [mem_namesOf]

end SiteAudit.Stylesheet
