import SiteAudit.Proofs.Text.Leads
import SiteAudit.Tag.Lexer

/-!
# What the parts of the reader leave

Every part of the reader takes something off the front of a text and leaves the
rest as it is. So the rest is an end of the text: nothing of a document is read
twice, and nothing is read that is not there.

* `attributes_rest`, `read_tag_rest`: start tags.
* `declaration_rest`: comments, declarations and marked sections.
* `beforeEndTag?_eq_some`: raw text and the end tag behind it.
-/
namespace SiteAudit.Tag

open Text

variable {s a b rest : List Char}

theorem cutAt?_eq_some {c : Char} (h : cutAt? c s = some (a, b)) : s = a ++ c :: b := by
  unfold cutAt? at h
  split at h
  · cases h
  · next d r hdrop =>
    obtain ⟨rfl, rfl⟩ := Prod.mk.inj (Option.some.inj h)
    have hd : (d != c) = false := by
      have hhead := List.head?_dropWhile_not (· != c) s
      rw [hdrop] at hhead
      simpa using hhead
    obtain rfl : d = c := by simpa using hd
    conv => lhs; rw [← List.takeWhile_append_dropWhile (p := (· != d)) (l := s), hdrop]

theorem cutAt?_rest {c : Char} (h : cutAt? c s = some (a, rest)) : rest <:+ s := by
  rw [cutAt?_eq_some h]
  exact (List.suffix_cons c rest).trans (List.suffix_append a (c :: rest))

theorem trimStart_rest (s : List Char) : trimStart s <:+ s := List.dropWhile_suffix _

/-! ## Start tags -/

namespace StartTag

theorem skipGap_rest (prev : Char) (s : List Char) : (skipGap prev s).2 <:+ s := by
  fun_induction skipGap prev s with
  | case1 prev => exact List.suffix_refl _
  | case2 prev c r _ ih => exact ih.trans (List.suffix_cons c r)
  | case3 prev c r _ => exact List.suffix_refl _

theorem bareValue_rest (prev : Char) (s : List Char) : (bareValue prev s).rest <:+ s :=
  List.dropWhile_suffix _

theorem value?_rest {v : Piece} (h : value? s = some v) : v.rest <:+ s := by
  unfold value? at h
  extract_lets behind signs afterSigns gap afterGap prev at h
  have hrest : afterGap <:+ s :=
    ((List.dropWhile_suffix _).trans (List.dropWhile_suffix _)).trans (List.dropWhile_suffix _)
  clear_value afterGap
  split at h
  · cases h
  split at h
  · cases h
    exact List.nil_suffix
  · next q r =>
    have hr : r <:+ s := (List.suffix_cons q r).trans hrest
    split at h
    · split at h
      · next text rest hcut =>
        cases h
        exact (cutAt?_rest hcut).trans hr
      · split at h
        · cases h
          exact hrest
        split at h
        · -- the value begins at the last of the signs, which a bare value takes in
          cases h
          have hsign : ('=' :: q :: r).dropWhile isBare <:+ q :: r := by
            rw [List.dropWhile_cons_of_pos (by decide)]
            exact List.dropWhile_suffix _
          exact hsign.trans hrest
        · cases h
    · cases h
      exact (bareValue_rest prev (q :: r)).trans hrest

theorem attribute?_rest {prev last : Char} {found : Attribute}
    (h : attribute? prev s = some (found, last, rest)) : rest <:+ s := by
  unfold attribute? at h
  split at h
  · cases h
  · next c r =>
    split at h
    · cases h
    extract_lets name behind at h
    have hbehind : behind <:+ c :: r := (List.dropWhile_suffix _).trans (List.suffix_cons c r)
    split at h
    · next v hv =>
      obtain ⟨-, hgap⟩ := Prod.mk.inj (Option.some.inj h)
      have hskip := skipGap_rest v.last v.rest
      rw [hgap] at hskip
      exact hskip.trans ((value?_rest hv).trans hbehind)
    · obtain ⟨-, hgap⟩ := Prod.mk.inj (Option.some.inj h)
      have hskip := skipGap_rest (name.getLast?.getD c) behind
      rw [hgap] at hskip
      exact hskip.trans hbehind

theorem attributes_rest (k : Nat) (prev : Char) (s : List Char) :
    (attributes k prev s).2 <:+ s := by
  induction k generalizing prev s with
  | zero => exact List.suffix_refl s
  | succ k ih =>
    unfold attributes
    split
    · exact List.suffix_refl s
    · next found last rest hfound => exact (ih last rest).trans (attribute?_rest hfound)

theorem afterAttributes_rest (s : List Char) (n k : Nat) (prev : Char) :
    (attributes k (skipGap prev (s.drop n)).1 (skipGap prev (s.drop n)).2).2 <:+ s :=
  ((attributes_rest _ _ _).trans (skipGap_rest _ _)).trans (List.drop_suffix n s)

theorem read_tag_rest {name : List Char} {attrs : List Attribute} {selfClosing : Bool}
    (h : read s = .tag name attrs selfClosing rest) : rest <:+ s := by
  unfold read at h
  generalize s.takeWhile (fun c => !endsName c) = tagName at h
  have hleft := afterAttributes_rest s tagName.length
    (skipGap (tagName.getLast?.getD '<') (s.drop tagName.length)).2.length
    (tagName.getLast?.getD '<')
  simp only at h
  split at h
  · next behind hbehind =>
    cases h
    rw [hbehind] at hleft
    exact (List.suffix_cons _ _).trans hleft
  · next behind hbehind =>
    cases h
    rw [hbehind] at hleft
    exact ((List.suffix_cons _ _).trans (List.suffix_cons _ _)).trans hleft
  · cases h
  · split at h <;> cases h

theorem read_noTag_rest (h : read s = .noTag rest) : rest <:+ s := by
  unfold read at h
  generalize s.takeWhile (fun c => !endsName c) = tagName at h
  have hleft := afterAttributes_rest s tagName.length
    (skipGap (tagName.getLast?.getD '<') (s.drop tagName.length)).2.length
    (tagName.getLast?.getD '<')
  simp only at h
  split at h
  · cases h
  · cases h
  · cases h
  · split at h
    · cases h
    · cases h
      exact hleft

end StartTag

/-! ## Comments, declarations and marked sections -/

theorem afterCloser?_rest {opener : List Char} (h : afterCloser? opener s = some rest) :
    rest <:+ s := by
  fun_induction afterCloser? opener s with
  | case1 s r hclose =>
    cases h
    obtain ⟨behind, hbehind, hgap⟩ := Option.map_eq_some_iff.mp hclose
    have hend : '>' :: rest <:+ behind := hgap ▸ trimStart_rest behind
    rw [after?_eq_some_iff.mp hbehind]
    exact ((List.suffix_cons _ _).trans hend).trans (List.suffix_append _ _)
  | case2 => cases h
  | case3 c r _ ih => exact (ih h).trans (List.suffix_cons c r)

theorem afterSection?_rest (h : afterSection? s = some rest) : rest <:+ s := by
  fun_induction afterSection? s with
  | case1 => cases h
  | case2 c r _ r' hfirst behind hsecond =>
    cases h
    have hbracket : ']' :: r' <:+ r := hfirst ▸ trimStart_rest r
    have hend : '>' :: rest <:+ r' := hsecond ▸ trimStart_rest r'
    exact ((List.suffix_cons _ _).trans hend).trans
      (((List.suffix_cons _ _).trans hbracket).trans (List.suffix_cons c r))
  | case3 c r _ _ _ _ ih => exact (ih h).trans (List.suffix_cons c r)
  | case4 c r _ _ ih => exact (ih h).trans (List.suffix_cons c r)
  | case5 c r _ ih => exact (ih h).trans (List.suffix_cons c r)

theorem markedSection_rest {whole : List Char} (h : markedSection whole s = .ok (some rest)) :
    rest <:+ s := by
  unfold markedSection at h
  split at h
  · cases h
  · split at h
    · cases h
    extract_lets name behind gap word at h
    split at h
    · cases h
    split at h
    · exact afterSection?_rest (Except.ok.inj h)
    split at h
    · exact afterCloser?_rest (Except.ok.inj h)
    · cases h

theorem map_cutAt?_rest {c : Char} (h : (cutAt? c s).map (·.2) = some rest) : rest <:+ s := by
  obtain ⟨⟨before, rest⟩, hcut, rfl⟩ := Option.map_eq_some_iff.mp h
  exact cutAt?_rest hcut

theorem declaration_rest {whole : List Char} (h : declaration whole s = .ok (some rest)) :
    rest <:+ s := by
  unfold declaration at h
  split at h
  · next r =>
    exact ((afterCloser?_rest (Except.ok.inj h)).trans (List.suffix_cons _ _)).trans
      (List.suffix_cons _ _)
  · exact (markedSection_rest h).trans (List.suffix_cons _ _)
  · split at h
    · exact (map_cutAt?_rest (Except.ok.inj h)).trans (List.drop_suffix 7 s)
    · exact map_cutAt?_rest (Except.ok.inj h)

/-! ## Raw text -/

theorem beforeEndTag?_eq_some {element : List Char}
    (h : beforeEndTag? element s = some (a, b)) : s = a ++ b := by
  fun_induction beforeEndTag? element s generalizing a with
  | case1 s hends =>
    cases h
    rfl
  | case2 => cases h
  | case3 c r _ ih =>
    obtain ⟨⟨before, tag⟩, hr, hab⟩ := Option.map_eq_some_iff.mp h
    obtain ⟨rfl, rfl⟩ := Prod.mk.inj hab
    rw [ih hr, List.cons_append]

end SiteAudit.Tag
