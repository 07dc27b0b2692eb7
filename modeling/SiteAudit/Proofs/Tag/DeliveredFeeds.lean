import SiteAudit.Proofs.Tag.WrittenFeeds

/-!
# The line feeds that a reading delivers

Reading takes a document apart piece by piece. What it delivers as text comes
from the piece as it is or with its references resolved, and a piece ends where
no number goes on. So a step delivers and leaves, taken together, no more line
feeds than it found (`Step.Within`), and a reading delivers no more than the
document writes.

* `normalStep_within`, `rawStep_within`: the steps.
* `delivered_loop`, `delivered_lex`: whole readings.
-/
namespace SiteAudit.Tag

open Text CharacterReference

/-- The line feeds in the text of a call. -/
def Call.feeds : Call → Nat
  | .data text => newlines text.toList
  | _ => 0

/-- The line feeds in the text of some calls. -/
def delivered : List Call → Nat
  | [] => 0
  | c :: more => c.feeds + delivered more

@[simp] theorem delivered_append (x y : List Call) :
    delivered (x ++ y) = delivered x + delivered y := by
  induction x with
  | nil => exact (Nat.zero_add _).symm
  | cons c more ih => rw [List.cons_append, delivered, ih, delivered, Nat.add_assoc]

@[simp] theorem delivered_dataCall (text : List Char) :
    delivered (dataCall text) = newlines text := by
  unfold dataCall
  split
  · next hempty =>
    rw [List.isEmpty_iff.mp hempty]
    rfl
  · simp [delivered, Call.feeds]

/-- A step that delivers and leaves, taken together, no more line feeds than `s`
writes. -/
def Step.Within (s : List Char) : Step → Prop
  | .go calls _ rest => delivered calls + writtenFeeds rest ≤ writtenFeeds s
  | .stop calls => delivered calls ≤ writtenFeeds s
  | .fail calls _ => delivered calls ≤ writtenFeeds s

variable {s a b rest : List Char}

/-! ## Text with references -/

theorem decoded_within {next : List Call → Step}
    (h : ∀ calls, delivered calls ≤ writtenFeeds a → (next calls).Within s) :
    (decoded a next).Within s := by
  unfold decoded
  split
  · next chars hchars =>
    refine h _ ?_
    have hfeeds := decode_feeds hchars
    simpa [delivered, Call.feeds] using hfeeds
  · exact Nat.zero_le _

theorem decoded_go_within (raw : Option (List Char)) (h : CleanCut a b) :
    (decoded a (fun calls => .go calls raw b)).Within (a ++ b) :=
  decoded_within fun _ hcalls =>
    Nat.le_trans (Nat.add_le_add_right hcalls _) (writtenFeeds_cut h)

theorem decoded_stop_within (s : List Char) : (decoded s .stop).Within s :=
  decoded_within fun _ hcalls => hcalls

/-! ## Markup -/

theorem eq_takeWhile_append {c : Char} (h : c ∈ s) :
    ∃ behind, s = s.takeWhile (· != c) ++ c :: behind := by
  obtain ⟨front, behind, rfl, hfront⟩ := List.eq_append_cons_of_mem h
  have hpass : ∀ d ∈ front, (d != c) = true := by
    intro d hd
    rw [bne_iff_ne]
    rintro rfl
    exact hfront hd
  refine ⟨behind, ?_⟩
  rw [List.takeWhile_append_of_pos hpass, List.takeWhile_cons_of_neg (by simp), List.append_nil]

/-- Broken markup ends behind a `>`, before a `<`, or behind its own `<`. -/
theorem brokenOff_within (final : Bool) (body : List Char) :
    (brokenOff final ('<' :: body)).Within ('<' :: body) := by
  unfold brokenOff
  split
  · exact Nat.zero_le _
  extract_lets tail size
  have hcut : CleanCut (('<' :: body).take size) (('<' :: body).drop size) := by
    by_cases hclose : '>' ∈ body
    · obtain ⟨behind, hbody⟩ := eq_takeWhile_append hclose
      have hsize : size = (body.takeWhile (· != '>')).length + 2 := by simp [size, tail, hclose]
      generalize body.takeWhile (· != '>') = front at hbody hsize
      have hpiece : ('<' :: body).take size = ('<' :: front) ++ ['>'] := by
        rw [hsize, hbody, List.take_succ_cons, List.take_length_add_append]
        rfl
      rw [hpiece]
      exact cleanCut_behind (by decide)
    by_cases hopen : '<' ∈ body
    · obtain ⟨behind, hbody⟩ := eq_takeWhile_append hopen
      have hsize : size = (body.takeWhile (· != '<')).length + 1 := by
        simp [size, tail, hclose, hopen]
      generalize body.takeWhile (· != '<') = front at hbody hsize
      have hrest : ('<' :: body).drop size = '<' :: behind := by
        rw [hsize, hbody, List.drop_succ_cons, List.drop_left]
      rw [hrest]
      exact cleanCut_before (by decide)
    · have hsize : size = 1 := by simp [size, tail, hclose, hopen]
      rw [hsize]
      exact cleanCut_behind (a := []) (by decide)
  have hwithin := decoded_go_within none hcut
  rwa [List.take_append_drop] at hwithin

/-- A step over markup that delivers no text. -/
theorem silent_within {calls : List Call} {raw : Option (List Char)} (hcalls : delivered calls = 0)
    (h : rest <:+ s) : (Step.go calls raw rest).Within s := by
  rw [Step.Within, hcalls, Nat.zero_add]
  exact writtenFeeds_le h

theorem passed_within (final : Bool) (body : List Char) {extent : Extent}
    (h : ∀ rest, extent = some rest → rest <:+ '<' :: body) :
    (passed final ('<' :: body) extent).Within ('<' :: body) := by
  cases extent with
  | none => exact brokenOff_within final body
  | some rest => exact silent_within rfl (h rest rfl)

theorem startTag_within (final : Bool) (body : List Char) :
    (startTag final ('<' :: body)).Within ('<' :: body) := by
  unfold startTag
  split
  · exact brokenOff_within final body
  · next rest hread =>
    obtain ⟨front, hfront⟩ := (StartTag.read_noTag_rest hread).trans (List.suffix_cons '<' body)
    have hlength : ('<' :: body).length - rest.length = front.length := by
      rw [← hfront, List.length_append, Nat.add_sub_cancel]
    rw [Step.Within, delivered_dataCall, hlength, ← hfront, List.take_left]
    exact newlines_add_le front rest
  · next name attrs selfClosing rest hread =>
    have hrest := (StartTag.read_tag_rest hread).trans (List.suffix_cons '<' body)
    extract_lets word tag
    split
    · exact Nat.zero_le _
    · split
      · exact silent_within rfl hrest
      · exact silent_within rfl hrest

theorem endTag_within (final : Bool) (body : List Char) :
    (endTag final ('<' :: body)).Within ('<' :: body) := by
  unfold endTag
  split
  · exact brokenOff_within final body
  · next name rest hcut =>
    have hrest : rest <:+ '<' :: body := (cutAt?_rest hcut).trans (List.drop_suffix 2 _)
    split
    · exact silent_within rfl hrest
    · split
      · exact silent_within rfl hrest
      · exact silent_within rfl hrest

theorem markup_within (final : Bool) (body : List Char) :
    (markup final ('<' :: body)).Within ('<' :: body) := by
  have htwo {c d : Char} {r : List Char} (h : '<' :: body = c :: d :: r) : r <:+ '<' :: body :=
    h ▸ (List.suffix_cons d r).trans (List.suffix_cons c (d :: r))
  unfold markup
  split
  · exact endTag_within final body
  · next r hbody =>
    exact passed_within final body fun rest hrest => (map_cutAt?_rest hrest).trans (htwo hbody)
  · next r hbody =>
    split
    · next extent hextent =>
      exact passed_within final body fun rest hrest =>
        (declaration_rest (hrest ▸ hextent)).trans (htwo hbody)
    · exact Nat.zero_le _
  · next d r _ _ _ hbody =>
    split
    · exact startTag_within final body
    · exact silent_within rfl (hbody ▸ List.suffix_cons _ (d :: r))
  · split
    · rw [Step.Within, delivered_dataCall]
      exact Nat.le_add_right ..
    · exact Nat.zero_le _

/-! ## Steps and readings -/

theorem normalStep_within (final : Bool) (s : List Char) : (normalStep final s).Within s := by
  unfold normalStep
  extract_lets text rest
  have hs : text ++ rest = s := List.prefix_iff_eq_append.mp (List.takeWhile_prefix _)
  have hopen : ∀ c ∈ rest.head?, c = '<' := by
    have hdrop : rest = s.dropWhile (· != '<') :=
      List.append_cancel_left (hs.trans List.takeWhile_append_dropWhile.symm)
    intro c hc
    have hhead := List.head?_dropWhile_not (· != '<') s
    rw [← hdrop, hc] at hhead
    simpa using hhead
  split
  · next hempty =>
    have htext : text = s := by rw [← hs, List.isEmpty_iff.mp hempty, List.append_nil]
    split
    · exact Nat.zero_le _
    · rw [htext]
      exact decoded_stop_within s
  split
  · next hne hempty =>
    have hrest : s = rest := by rw [← hs, List.isEmpty_iff.mp hempty, List.nil_append]
    obtain ⟨c, body, hbody⟩ := List.exists_cons_of_ne_nil fun h => hne (List.isEmpty_iff.mpr h)
    obtain rfl : c = '<' := hopen c (by rw [hbody]; rfl)
    rw [hrest, hbody]
    exact markup_within final body
  · have hcut : CleanCut text rest := .inr fun c hc => hopen c hc ▸ by decide
    exact hs ▸ decoded_go_within none hcut

theorem rawStep_within (element s : List Char) : (rawStep element s).Within s := by
  unfold rawStep
  split
  · exact Nat.zero_le _
  · next text tag htag =>
    rw [beforeEndTag?_eq_some htag]
    have hfront := newlines_add_le text tag
    split
    · rw [Step.Within, delivered_dataCall]
      omega
    · next body rest hcut =>
      -- the end tag may be passed on as text, so its body counts as well
      have hbody : newlines body + writtenFeeds rest ≤ writtenFeeds tag := by
        calc newlines body + writtenFeeds rest
            ≤ newlines body + writtenFeeds ('>' :: rest) :=
              Nat.add_le_add_left (writtenFeeds_le (List.suffix_cons '>' rest)) _
          _ ≤ writtenFeeds (tag.drop 2) := cutAt?_eq_some hcut ▸ newlines_add_le body _
          _ ≤ writtenFeeds tag := writtenFeeds_le (List.drop_suffix 2 tag)
      split
      · rw [Step.Within, delivered_append, delivered_dataCall]
        have hfinish : delivered [.finish (String.ofList element)] = 0 := rfl
        omega
      · have hmarkup : newlines ('<' :: '/' :: body ++ ['>']) = newlines body := by
          simp [newlines]
        rw [Step.Within, delivered_append, delivered_dataCall, delivered_dataCall, hmarkup]
        omega

/-- A reading delivers no more line feeds than its text writes. -/
theorem delivered_loop (final : Bool) (k : Nat) (raw : Option (List Char)) (s : List Char) :
    delivered (loop final k raw s).calls ≤ writtenFeeds s := by
  induction k generalizing raw s with
  | zero => exact Nat.zero_le _
  | succ k ih =>
    cases s with
    | nil => exact Nat.zero_le _
    | cons c r =>
      unfold loop
      extract_lets next
      have hnext : next.Within (c :: r) := by
        cases raw with
        | none => exact normalStep_within final (c :: r)
        | some element => exact rawStep_within element (c :: r)
      clear_value next
      cases next with
      | go calls raw rest =>
        have hlater := ih raw rest
        rw [Step.Within] at hnext
        simp only [delivered_append]
        omega
      | stop calls => exact hnext
      | fail calls fault => exact hnext

theorem delivered_lex (s : List Char) : delivered (lex s).calls ≤ writtenFeeds s :=
  delivered_loop true s.length none s

end SiteAudit.Tag
