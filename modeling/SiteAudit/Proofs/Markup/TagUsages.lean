import SiteAudit.Proofs.Markup.FailedReadings
import SiteAudit.Proofs.Tag.Inference
import SiteAudit.Proofs.Text.Blanks

/-!
# The usages of one start tag

Attributes come as they are written: a name may stand there more than once, and
without a value. The first of each name counts, with an empty value if it has
none. What a start tag uses so depends on two values only, and is put behind what
the document used before.

* `lookup_distinctAttributes`: the value of an attribute.
* `distinctAttributes_again`: a name that is written again says nothing.
* `start_tag_usages`: what a start tag adds to the usages of a document.
-/
namespace SiteAudit.Tag

/-! ## First values -/

/-- The value of the first attribute of a name; an attribute that is missing or has
no value counts as empty. -/
def firstValue (name : String) (attributes : List (String × Option String)) : String :=
  ((attributes.lookup name).getD none).getD ""

theorem lookup_filter_ne {n m : String} (h : n ≠ m) (kept : List (String × String)) :
    (kept.filter (fun a => a.1 != m)).lookup n = kept.lookup n := by
  induction kept with
  | nil => rfl
  | cons a more ih =>
    obtain ⟨k, v⟩ := a
    by_cases hk : k = m
    · have hne : (n == k) = false := beq_false_of_ne (hk ▸ h)
      rw [List.filter_cons_of_neg (by simpa using hk), ih, List.lookup_cons, hne]
    · rw [List.filter_cons_of_pos (by simpa using hk), List.lookup_cons, List.lookup_cons, ih]

/-- The first attribute of a name is the one that stays. -/
theorem lookup_distinctAttributes (n : String) (attributes : List (String × Option String)) :
    (distinctAttributes attributes).lookup n = (attributes.lookup n).map (·.getD "") := by
  induction attributes with
  | nil => rfl
  | cons a more ih =>
    obtain ⟨m, value⟩ := a
    rw [distinctAttributes, List.lookup_cons, List.lookup_cons]
    by_cases h : n = m
    · simp [h]
    · have hne : (n == m) = false := by simpa using h
      rw [hne, lookup_filter_ne h, ih]

theorem lookup_getD_distinctAttributes (n : String) (attributes : List (String × Option String)) :
    ((distinctAttributes attributes).lookup n).getD "" = firstValue n attributes := by
  rw [lookup_distinctAttributes, firstValue]
  cases attributes.lookup n <;> rfl

theorem mem_names_distinctAttributes {n : String} {attributes : List (String × Option String)} :
    n ∈ (distinctAttributes attributes).map Prod.fst ↔ n ∈ attributes.map Prod.fst := by
  induction attributes with
  | nil => rfl
  | cons a more ih =>
    by_cases h : n = a.1
    · simp [distinctAttributes, h]
    · simpa [distinctAttributes, h] using ih

theorem distinctAttributes_again {a : List (String × Option String)} {n : String}
    (h : n ∈ a.map Prod.fst) (v : Option String) (b : List (String × Option String)) :
    distinctAttributes (a ++ (n, v) :: b) = distinctAttributes (a ++ b) := by
  rw [← mem_names_distinctAttributes, distinctAttributes_eq_foldl] at h
  rw [distinctAttributes_eq_foldl, distinctAttributes_eq_foldl, List.foldl_append,
    List.foldl_append, List.foldl_cons, keepFirst, if_pos h]

end SiteAudit.Tag

namespace SiteAudit.Markup

open Tag Text

/-! ## One start tag -/

theorem tagUsages_eq_values (path : String) (line : Nat) (attributes : List (String × String)) :
    tagUsages path line attributes =
      (words ((attributes.lookup "class").getD "").toList).map
        (fun w => ⟨String.ofList w, .cls, path, line⟩) ++
      if (attributes.lookup "id").getD "" = "" then []
      else [⟨(attributes.lookup "id").getD "", .id, path, line⟩] := by
  unfold tagUsages
  cases attributes.lookup "class" <;> cases attributes.lookup "id" <;> rfl

theorem usagesFrom_closed (path : String) (line : Nat) (names : List String) :
    usagesFrom path line (names.map .closed) = [] := by
  induction names with
  | nil => rfl
  | cons name more ih => exact ih

theorem usages_start (path : String) (failure : Option Failure) (before after : List Call)
    (name : String) (attributes : List (String × Option String)) :
    let line := 1 + newlinesIn (textOf (events before))
    usages path ⟨before ++ .start name attributes :: after, failure⟩ =
      usages path ⟨before, none⟩ ++ tagUsages path line (distinctAttributes attributes) ++
        usagesFrom path line (run (openAfter [] (before ++ [.start name attributes])) after) := by
  intro line
  -- the elements that the tag ends are closed in front of it, which is not listened to
  have hnone : newlinesIn "" = 0 := rfl
  simp only [usages, events, run_append, run, Call.events, usagesFrom_append, usagesFrom_closed,
    textOf_closed, hnone, usagesFrom, openAfter_append, openAfter, List.append_assoc,
    List.nil_append, List.cons_append, Nat.add_zero, line]

/-- **Usages of a start tag.** In any document, a start tag adds to the usages in
front of it: a class usage for every maximal run of characters that are no blanks
in the value of the first class attribute, in order, and then one id usage with the
value of the first id attribute as it is, unless that is empty. All have the line
that the text in front of the tag leads to. Attributes whose name was written before
in the tag, whatever the value of the first one, can be left out. -/
theorem start_tag_usages (path : String) (failure : Option Failure) (before after : List Call)
    (name : String) (attributes : List (String × Option String)) :
    let line := 1 + newlinesIn (textOf (events before))
    let classValue := firstValue "class" attributes
    let idValue := firstValue "id" attributes
    (∃ classes, Runs classValue.toList classes ∧
      usages path ⟨before ++ .start name attributes :: after, failure⟩ =
        usages path ⟨before, none⟩ ++
        (classes.map (fun w => ⟨String.ofList w, .cls, path, line⟩) ++
          if idValue = "" then [] else [⟨idValue, .id, path, line⟩]) ++
        usagesFrom path line (run (openAfter [] (before ++ [.start name attributes])) after)) ∧
    ∀ a n v b, attributes = a ++ (n, v) :: b → n ∈ a.map Prod.fst →
      usages path ⟨before ++ .start name (a ++ b) :: after, failure⟩ =
        usages path ⟨before ++ .start name attributes :: after, failure⟩ := by
  intro line classValue idValue
  refine ⟨⟨words classValue.toList, words_eq_iff.mp rfl, ?_⟩, ?_⟩
  · rw [usages_start, tagUsages_eq_values, lookup_getD_distinctAttributes,
      lookup_getD_distinctAttributes]
  · rintro a n v b rfl hn
    rw [usages_start, usages_start, distinctAttributes_again hn]
    simp only [openAfter_append, openAfter, Call.after]

theorem second_class_unused :
    "class" ∈ [("class", (none : Option String))].map Prod.fst ∧
      usages "a.html" ⟨[.start "p" [("class", none)]], none⟩ =
        usages "a.html" ⟨[.start "p" [("class", none), ("class", some "a")]], none⟩ := by
  have hmem : "class" ∈ [("class", (none : Option String))].map Prod.fst := by decide
  exact ⟨hmem, (start_tag_usages "a.html" none [] [] "p" [("class", none), ("class", some "a")]).2
    [("class", none)] "class" (some "a") [] rfl hmem⟩

-- the first class attribute counts, here without a value, and so does the first id
example : (tagUsages "a.html" 1 (distinctAttributes
    [("class", none), ("id", some " x "), ("class", some "a"), ("id", some "y")])).map (·.name) =
      [" x "] := by
  decide

end SiteAudit.Markup
