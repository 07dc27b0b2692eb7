import SiteAudit.Proofs.Text.Lines
import SiteAudit.Proofs.Text.Utf8
import SiteAudit.Script.Excerpt

/-!
# Places in characters

A syntax tree gives a place as a row and a column in bytes, a report as a line and
a column in characters. The bytes in front of the column are read as far as they
are characters, so a column inside a character counts as one in front of it, and a
column behind the end of the line as the end.

* `place_of_piece`: the column of a place on a line.
* `exists_lineStart`: every offset is on a line.
* `places_in_characters`: the place of an offset, of any row and column of bytes,
  and of a row behind the last line.
-/
namespace SiteAudit.Script

open Text Utf8

/-- The column of a place counts the characters of its line that end at or before
the column in bytes. -/
theorem place_of_piece {content line : List Char} {row : Nat} (h : IsPiece '\n' content row line)
    (column : Nat) : place row column content = (row + 1, charsWithin column line) := by
  simp only [place, getElem?_splitOn_iff.mpr h, decodeSkipping_take, List.length_take]
  rw [Nat.min_eq_left (charsWithin_le column line)]

theorem place_behind {content : List Char} {row : Nat} (h : 1 + content.count '\n' ≤ row)
    (column : Nat) : place row column content = (row + 1, 0) := by
  have hnone : (splitOn '\n' content)[row]? = none := by
    rw [List.getElem?_eq_none_iff, length_splitOn]
    exact h
  simp only [place, hnone]

theorem exists_line {content : List Char} {row : Nat} (h : row < 1 + content.count '\n') :
    ∃ line, IsPiece '\n' content row line := by
  rw [← length_splitOn] at h
  exact ⟨_, getElem?_splitOn_iff.mp (List.getElem?_eq_getElem h)⟩

/-! ## The line of an offset -/

/-- The line of offset `k` begins at offset `start`: at the front of the text or
behind a line feed, with no line feed from there to `k`. -/
structure IsLineStart (text : List Char) (k start : Nat) : Prop where
  le : start ≤ k
  begins : BeginsBehind '\n' (text.take start)
  line : '\n' ∉ (text.take k).drop start

theorem exists_lineStart (text : List Char) {k : Nat} (hk : k ≤ text.length) :
    ∃ start, IsLineStart text k start := by
  -- the last line of the text before `k` has nothing behind it
  obtain ⟨line, front, rest, htake, hcount, hfront, hline, hrest⟩ :=
    exists_line (show (text.take k).count '\n' < 1 + (text.take k).count '\n' by omega)
  have hnone : rest = [] := by
    refine hrest.resolve_right fun hhead => ?_
    obtain ⟨r, rfl⟩ := List.head?_eq_some_iff.mp hhead
    rw [htake] at hcount
    simp only [List.count_append, List.count_cons_self] at hcount
    omega
  subst hnone
  rw [List.append_nil] at htake
  have hlength := congrArg List.length htake
  rw [List.length_take_of_le hk, List.length_append] at hlength
  have hle : front.length ≤ k := by omega
  refine ⟨front.length, hle, ?_, ?_⟩
  · have hstart : text.take front.length = front := by
      rw [← Nat.min_eq_left hle, ← List.take_take, htake, List.take_left]
    rwa [hstart]
  · rwa [htake, List.drop_left]

/-- A place on the line of offset `k`, as many bytes behind the start of the line as
the text up to `k` takes, is the place of `k`. -/
theorem place_of_lineStart {content : List Char} {k start : Nat} (hk : k ≤ content.length)
    (h : IsLineStart content k start) :
    place ((content.take k).count '\n') (encode ((content.take k).drop start)).length content =
      (1 + (content.take k).count '\n', k - start) := by
  obtain ⟨hle, hbegins, hline⟩ := h
  have htake : content.take k = content.take start ++ (content.take k).drop start := by
    have hfront : (content.take k).take start = content.take start := by
      rw [List.take_take, Nat.min_eq_left hle]
    rw [← hfront, List.take_append_drop]
  have hlength : ((content.take k).drop start).length = k - start := by
    rw [List.length_drop, List.length_take_of_le hk]
  generalize (content.take k).drop start = lead at hline htake hlength ⊢
  obtain ⟨piece, more, hrest⟩ := List.exists_cons_of_ne_nil (splitOn_ne_nil '\n' (content.drop k))
  obtain ⟨above, hsplit, habove⟩ := splitOn_behind hbegins (lead ++ content.drop k)
  rw [← List.append_assoc, ← htake, List.take_append_drop, splitOn_lead hline hrest] at hsplit
  have hcount : (content.take k).count '\n' = above.length := by
    rw [htake, List.count_append, List.count_eq_zero.mpr hline, habove, Nat.add_zero]
  have hat : (splitOn '\n' content)[above.length]? = some (lead ++ piece) := by
    rw [hsplit]
    simp
  simp only [place, hcount, hat, encode_append, List.take_left, decodeSkipping_encode, hlength,
    Nat.add_comm 1]

/-! ## All places -/

/-- **Places.** The row of an offset and its distance from the start of the line in
bytes give its line and its distance in characters. On every row of the text, any
column of bytes gives the number of characters of that line whose encoding ends at
or before it. A row behind the last line gives column 0. -/
theorem places_in_characters (content : List Char) :
    (∀ k, k ≤ content.length → ∃ start, IsLineStart content k start ∧
      place ((content.take k).count '\n') (encode ((content.take k).drop start)).length content =
        (1 + (content.take k).count '\n', k - start)) ∧
    (∀ row, row < 1 + content.count '\n' → ∃ line, IsPiece '\n' content row line ∧
      ∀ column, place row column content = (row + 1, charsWithin column line)) ∧
    ∀ row column, 1 + content.count '\n' ≤ row → place row column content = (row + 1, 0) := by
  refine ⟨fun k hk => ?_, fun row hrow => ?_, fun row column hrow => place_behind hrow column⟩
  · obtain ⟨start, hstart⟩ := exists_lineStart content hk
    exact ⟨start, hstart, place_of_lineStart hk hstart⟩
  · obtain ⟨line, hline⟩ := exists_line hrow
    exact ⟨line, hline, place_of_piece hline⟩

-- the second byte of a character of two bytes does not bring it in
example : [0, 1, 2, 3, 4, 5, 9].map (charsWithin · "aéb€".toList) = [0, 1, 1, 2, 3, 3, 4] := by
  decide

end SiteAudit.Script
