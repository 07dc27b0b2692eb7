import SiteAudit.Text.Blank

/-!
# The lines of a text

`splitOn` cuts a text at the occurrences of a character. Here are the laws of the
cut, and what a piece is in the uncut text (`IsPiece`).

* `splitOn_append`, `splitOn_lead`: the cut of a text, from those of its parts.
* `length_splitOn`: there is one piece more than there are separators.
* `getElem?_splitOn_iff`: the pieces by their numbers.
-/
namespace SiteAudit.Text

theorem splitOn_ne_nil (sep : Char) (s : List Char) : splitOn sep s ≠ [] := by
  fun_induction splitOn sep s <;> simp_all

theorem splitOn_cons {sep c : Char} (hc : c ≠ sep) {s piece : List Char} {more : List (List Char)}
    (h : splitOn sep s = piece :: more) : splitOn sep (c :: s) = (c :: piece) :: more := by
  simp [splitOn, hc, h]

theorem splitOn_isPrefix {sep : Char} {s piece : List Char} {more : List (List Char)}
    (h : splitOn sep s = piece :: more) : piece <+: s := by
  induction s generalizing piece more with
  | nil =>
    obtain ⟨rfl, -⟩ : [] = piece ∧ [] = more := by simpa [splitOn] using h
    exact List.nil_prefix
  | cons c r ih =>
    by_cases hc : c = sep
    · obtain ⟨rfl, -⟩ : [] = piece ∧ splitOn sep r = more := by simpa [splitOn, hc] using h
      exact List.nil_prefix
    · obtain ⟨first, rest, hr⟩ := List.exists_cons_of_ne_nil (splitOn_ne_nil sep r)
      obtain ⟨rfl, -⟩ := List.cons.inj ((splitOn_cons hc hr).symm.trans h)
      exact (List.prefix_cons_inj c).mpr (ih hr)

theorem length_splitOn (sep : Char) (s : List Char) :
    (splitOn sep s).length = 1 + s.count sep := by
  induction s with
  | nil => rfl
  | cons c r ih =>
    by_cases hc : c = sep
    · simp [splitOn, hc, ih, Nat.add_comm]
    · obtain ⟨first, rest, hr⟩ := List.exists_cons_of_ne_nil (splitOn_ne_nil sep r)
      rw [splitOn_cons hc hr, List.count_cons_of_ne hc, ← ih, hr]
      rfl

theorem splitOn_lead {sep : Char} {lead : List Char} (hlead : sep ∉ lead)
    {s piece : List Char} {more : List (List Char)} (h : splitOn sep s = piece :: more) :
    splitOn sep (lead ++ s) = (lead ++ piece) :: more := by
  induction lead with
  | nil => exact h
  | cons c lead ih =>
    exact splitOn_cons (Ne.symm (List.ne_of_not_mem_cons hlead))
      (ih (List.not_mem_of_not_mem_cons hlead))

theorem splitOn_append (sep : Char) (a b : List Char) :
    splitOn sep (a ++ sep :: b) = splitOn sep a ++ splitOn sep b := by
  induction a with
  | nil => simp [splitOn]
  | cons c a ih =>
    by_cases hc : c = sep
    · simp [splitOn, hc, ih]
    · obtain ⟨piece, more, ha⟩ := List.exists_cons_of_ne_nil (splitOn_ne_nil sep a)
      rw [splitOn_cons hc ha]
      refine splitOn_cons hc (ih.trans ?_)
      rw [ha]
      rfl

/-! ## Pieces in the uncut text -/

/-- Whether a piece begins behind the text `front`. -/
def BeginsBehind (sep : Char) (front : List Char) : Prop :=
  front = [] ∨ front.getLast? = some sep

/-- `piece` is the piece with number `k` of a text: `k` separators stand in front of
it, the last of them right there, and it reaches to the next one or to the end. -/
def IsPiece (sep : Char) (text : List Char) (k : Nat) (piece : List Char) : Prop :=
  ∃ front rest, text = front ++ piece ++ rest ∧ front.count sep = k ∧ BeginsBehind sep front ∧
    sep ∉ piece ∧ (rest = [] ∨ rest.head? = some sep)

/-- Pieces begin where those of the text in front have ended. -/
theorem splitOn_behind {sep : Char} {front : List Char} (h : BeginsBehind sep front)
    (s : List Char) :
    ∃ above, splitOn sep (front ++ s) = above ++ splitOn sep s ∧
      above.length = front.count sep := by
  rcases h with rfl | hlast
  · exact ⟨[], rfl, rfl⟩
  · obtain ⟨front, rfl⟩ := List.getLast?_eq_some_iff.mp hlast
    refine ⟨splitOn sep front, ?_, ?_⟩
    · rw [List.append_assoc]
      exact splitOn_append sep front s
    · rw [length_splitOn]
      simp [Nat.add_comm]

theorem IsPiece.getElem? {sep : Char} {text : List Char} {k : Nat} {piece : List Char}
    (h : IsPiece sep text k piece) : (splitOn sep text)[k]? = some piece := by
  obtain ⟨front, rest, rfl, rfl, hfront, hpiece, hrest⟩ := h
  obtain ⟨above, hsplit, hlength⟩ := splitOn_behind hfront (piece ++ rest)
  have hfirst : ∃ more, splitOn sep rest = [] :: more := by
    rcases hrest with rfl | hhead
    · exact ⟨[], rfl⟩
    · obtain ⟨r, rfl⟩ := List.head?_eq_some_iff.mp hhead
      exact ⟨splitOn sep r, by simp [splitOn]⟩
  obtain ⟨more, hmore⟩ := hfirst
  rw [List.append_assoc, hsplit, ← hlength, splitOn_lead hpiece hmore]
  simp

theorem isPiece_of_getElem? {sep : Char} {text : List Char} {k : Nat} {piece : List Char}
    (h : (splitOn sep text)[k]? = some piece) : IsPiece sep text k piece := by
  induction text generalizing k piece with
  | nil =>
    cases k with
    | zero =>
      obtain rfl : [] = piece := by simpa [splitOn] using h
      exact ⟨[], [], rfl, rfl, Or.inl rfl, by simp, Or.inl rfl⟩
    | succ k => simp [splitOn] at h
  | cons c r ih =>
    by_cases hc : c = sep
    · subst hc
      cases k with
      | zero =>
        obtain rfl : [] = piece := by simpa [splitOn] using h
        exact ⟨[], c :: r, rfl, rfl, Or.inl rfl, by simp, Or.inr rfl⟩
      | succ k =>
        obtain ⟨front, rest, rfl, hcount, hfront, hpiece, hrest⟩ :=
          ih (k := k) (by simpa [splitOn] using h)
        refine ⟨c :: front, rest, rfl, by simp [hcount], Or.inr ?_, hpiece, hrest⟩
        rcases hfront with rfl | hlast
        · rfl
        · rw [List.getLast?_cons, hlast]
          rfl
    · obtain ⟨first, more, hr⟩ := List.exists_cons_of_ne_nil (splitOn_ne_nil sep r)
      rw [splitOn_cons hc hr] at h
      cases k with
      | zero =>
        obtain rfl : c :: first = piece := by simpa using h
        obtain ⟨front, rest, rfl, hcount, hfront, hpiece, hrest⟩ := ih (k := 0) (by rw [hr]; rfl)
        -- a front without a separator is empty, so the character joins the first piece
        have hnone : front = [] := by
          rcases hfront with rfl | hlast
          · rfl
          · exact absurd (List.mem_of_getLast? hlast) (List.count_eq_zero.mp hcount)
        subst hnone
        refine ⟨[], rest, rfl, rfl, Or.inl rfl, ?_, hrest⟩
        simpa [Ne.symm hc] using hpiece
      | succ k =>
        obtain ⟨front, rest, rfl, hcount, hfront, hpiece, hrest⟩ :=
          ih (k := k + 1) (by rw [hr]; exact h)
        have hne : front ≠ [] := by
          rintro rfl
          cases hcount
        refine ⟨c :: front, rest, rfl, by rw [List.count_cons_of_ne hc, hcount], Or.inr ?_, hpiece,
          hrest⟩
        rw [List.getLast?_cons, hfront.resolve_left hne]
        rfl

/-- The cut gives the pieces by their numbers. -/
theorem getElem?_splitOn_iff {sep : Char} {text : List Char} {k : Nat} {piece : List Char} :
    (splitOn sep text)[k]? = some piece ↔ IsPiece sep text k piece :=
  ⟨isPiece_of_getElem?, IsPiece.getElem?⟩

end SiteAudit.Text
