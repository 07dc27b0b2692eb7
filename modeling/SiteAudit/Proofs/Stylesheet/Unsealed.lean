import SiteAudit.Proofs.Stylesheet.Bundling

/-!
# What gets lost behind a stylesheet

Behind a sealed stylesheet nothing gets lost. Here it is shown that behind any
other something does, if only it ends with a closing brace: there is a rule that
defines a class by itself and does not do so behind that stylesheet. It is found
by putting in rules for classes with names of any length (`probe`). Behind an
open comment, an open address or a brace too many, what is defined does not
depend on the rule that is put in, so almost all of the names are missing.

* `comments_of_keepsBehind`, `addresses_of_keepsBehind`, `braces_of_keepsBehind`:
  one loss for each of the three.
* `sealed_of_keepsBehind`: only sealed stylesheets keep what stands behind them.
-/
namespace SiteAudit.Stylesheet

open Markup References

/-- Whatever stands behind the stylesheet, no class that it defines is lost. -/
def KeepsBehind (a : List Char) : Prop :=
  ∀ b name, defines (Definitions.addSheet {} b) .cls name = true →
    defines (Definitions.addSheet {} (a ++ b)) .cls name = true

/-- A rule for a class whose name may be as long as one likes. -/
def probe (n : Nat) : Block := ⟨'.' :: 'k' :: List.replicate n 'k', []⟩

def probeName (n : Nat) : String := String.ofList ('k' :: List.replicate n 'k')

/-- What is put behind a probe: nothing, or what closes a comment or an address. -/
def closers : List (List Char) := [[], ['*', '/'], [')']]

theorem Block.getLast?_text (b : Block) : b.text.getLast? = some '}' := by
  simp [Block.text, List.getLast?_append, List.getLast?_cons]

theorem probe_sound (n : Nat) : (probe n).Sound := by
  refine ⟨?_, (by decide : Balanced [])⟩
  simp [BraceFree, probe, List.mem_replicate]

theorem not_mem_probe {c : Char} (h : c ∉ ['.', 'k', '{', '}']) (n : Nat) :
    c ∉ (probe n).text := by
  simp only [List.mem_cons, List.not_mem_nil, or_false, not_or] at h
  simp [probe, Block.text, List.mem_replicate, h]

theorem exists_probeName_not_mem (names : List String) : ∃ n, probeName n ∉ names := by
  suffices h : ∃ n, ∀ m, n ≤ m → probeName m ∉ names by
    obtain ⟨n, hn⟩ := h
    exact ⟨n, hn n (Nat.le_refl n)⟩
  induction names with
  | nil => exact ⟨0, by simp⟩
  | cons name names ih =>
    obtain ⟨n, hn⟩ := ih
    refine ⟨max n name.length, fun m hm hmem => ?_⟩
    rcases List.mem_cons.mp hmem with rfl | hmem
    · have hlength : (probeName m).length = m + 1 := by
        rw [probeName, String.length_ofList]
        simp
      omega
    · exact hn m (by omega) hmem

theorem stripComments_probe {closer : List Char} (hcloser : closer ∈ closers)
    (n : Nat) : stripComments ((probe n).text ++ closer) = (probe n).text ++ closer := by
  have hstrip : stripComments closer = closer := by
    revert closer
    decide
  rw [stripComments_append (uncommented_of_no_slash (not_mem_probe (by decide) n))
    (by simp [(probe n).getLast?_text]), hstrip]

theorem clean_probe {closer : List Char} (hcloser : closer ∈ closers) (n : Nat) :
    clean ((probe n).text ++ closer) = (probe n).text ++ closer := by
  have hout : '(' ∉ closer := by
    revert closer
    decide
  have hbracket : '(' ∉ (probe n).text ++ closer := by
    simp [not_mem_probe (by decide : '(' ∉ ['.', 'k', '{', '}']), hout]
  rw [clean, stripComments_probe hcloser]
  exact stripUrls_of_no_address fun piece hin hpiece => hbracket (hin.subset hpiece.bracket)

/-- Behind a probe there may stand what would close a comment or an address. -/
theorem defines_probe {closer : List Char} (hcloser : closer ∈ closers) (n : Nat) :
    defines (Definitions.addSheet {} ((probe n).text ++ closer)) .cls (probeName n) = true := by
  rw [defines_addSheet, clean_probe hcloser, preludes_block (probe_sound n)]
  refine Or.inr ⟨_, List.mem_cons_self .., [], 'k', List.replicate n 'k', [], ?_, by decide, ?_⟩
  · simp [probe]
  · refine ⟨fun c hc => ?_, by simp, by simp [probeName]⟩
    rw [List.eq_of_mem_replicate hc]
    decide

/-- If the preludes do not depend on a probe that is put in, one is lost. -/
theorem not_keepsBehind {a : List Char} {closer : List Char}
    (hcloser : closer ∈ closers) {fixed : List (List Char)}
    (h : ∀ n, preludes (clean (a ++ ((probe n).text ++ closer))) = fixed) : ¬KeepsBehind a := by
  intro hkeeps
  obtain ⟨n, hn⟩ := exists_probeName_not_mem (fixed.flatMap (namesOf .cls))
  have hdefined := hkeeps _ _ (defines_probe hcloser n)
  rw [defines_addSheet, h] at hdefined
  obtain ⟨p, hp, hname⟩ := hdefined.resolve_left (by simp [defines_empty])
  exact hn (List.mem_flatMap.mpr ⟨p, hp, mem_namesOf.mpr hname⟩)

/-! ## Open comments -/

theorem exists_first_end {s : List Char} (h : ['*', '/'] <:+: s) :
    ∃ body rest, s = body ++ '*' :: '/' :: rest ∧ ¬['*', '/'] <:+: body := by
  induction s with
  | nil => simp at h
  | cons c r ih =>
    by_cases hstart : ['*', '/'] <+: c :: r
    · obtain ⟨rest, hrest⟩ := hstart
      exact ⟨[], rest, by simpa using hrest.symm, by simp⟩
    · obtain ⟨body, rest, rfl, hbody⟩ := ih ((List.infix_cons_iff.mp h).resolve_left hstart)
      refine ⟨c :: body, rest, rfl, fun hin => ?_⟩
      rcases List.infix_cons_iff.mp hin with hpre | hin
      · exact hstart (hpre.trans (List.prefix_append (c :: body) _))
      · exact hbody hin

theorem closed_or_open (s : List Char) :
    (∃ code, Uncommented s code) ∨ ∃ front code rest, s = front ++ '/' :: '*' :: rest ∧
      Uncommented front code ∧ ¬['*', '/'] <:+: rest := by
  by_cases hstart : ['/', '*'] <+: s
  · obtain ⟨r, rfl⟩ := hstart
    by_cases hclose : ['*', '/'] <:+: r
    · obtain ⟨body, more, rfl, hbody⟩ := exists_first_end hclose
      rcases closed_or_open more with ⟨code, hcode⟩ | ⟨front, code, rest, rfl, hfront, hrest⟩
      · exact Or.inl ⟨code, .comment body hbody hcode⟩
      · exact Or.inr ⟨'/' :: '*' :: (body ++ '*' :: '/' :: front), code, rest, by simp,
          .comment body hbody hfront, hrest⟩
    · exact Or.inr ⟨[], [], r, rfl, .nil, hclose⟩
  · cases s with
    | nil => exact Or.inl ⟨[], .nil⟩
    | cons c r =>
      rcases closed_or_open r with ⟨code, hcode⟩ | ⟨front, code, rest, rfl, hfront, hrest⟩
      · exact Or.inl ⟨c :: code, .code c hstart hcode⟩
      · refine Or.inr ⟨c :: front, c :: code, rest, rfl, .code c (fun h => ?_) hfront, hrest⟩
        exact hstart (h.trans (List.prefix_append (c :: front) _))
termination_by s.length

theorem no_end_append {rest q : List Char} (h : ¬['*', '/'] <:+: rest) (hq : '/' ∉ q) :
    ¬['*', '/'] <:+: rest ++ q := by
  rintro ⟨u, v, heq⟩
  rcases List.append_eq_append_iff.mp heq with ⟨more, hmore, -⟩ | ⟨beyond, hbeyond, hend⟩
  · exact h ⟨u, more, hmore.symm⟩
  · rcases List.eq_nil_or_concat beyond with rfl | ⟨init, d, rfl⟩
    · exact h ⟨u, [], by simpa using hbeyond⟩
    · have hsplit : u ++ ['*'] ++ ['/'] = rest ++ init ++ [d] := by simpa using hbeyond
      obtain ⟨-, hd⟩ := List.append_inj' hsplit rfl
      obtain rfl : '/' = d := by simpa using hd
      exact hq (by simp [hend])

/-- Behind a comment that is not closed, a rule and the end of the comment are lost. -/
theorem comments_of_keepsBehind {a : List Char} (h : KeepsBehind a) :
    ∃ code, Uncommented a code := by
  rcases closed_or_open a with hclosed | ⟨front, code, rest, rfl, hfront, hrest⟩
  · exact hclosed
  · have hcloser : ['*', '/'] ∈ closers := by decide
    refine absurd h (not_keepsBehind hcloser (fun n => ?_ : ∀ n, _ = preludes (stripUrls code)))
    have hplain : '/' ∉ (probe n).text := not_mem_probe (by decide) n
    obtain ⟨hcloses, hstrip⟩ := stripCommentsFrom_body (no_end_append hrest hplain) []
    have hopen : stripComments ('/' :: '*' :: (rest ++ (probe n).text ++ ['*', '/'])) = [] := by
      rw [stripComments, stripCommentsFrom.eq_2, if_pos hcloses, hstrip]
      rfl
    have htext : front ++ '/' :: '*' :: rest ++ ((probe n).text ++ ['*', '/']) =
        front ++ '/' :: '*' :: (rest ++ (probe n).text ++ ['*', '/']) := by simp
    rw [htext, clean, stripComments_append hfront (by simp), hopen, List.append_nil]

/-! ## Open addresses -/

/-- Inside an address, all is lost up to its closing bracket. -/
theorem stripUrlsFrom_inside {s : List Char} (h : ')' ∉ s) :
    stripUrlsFrom true (s ++ [')']) = [] := by
  induction s with
  | nil => rfl
  | cons c r ih =>
    obtain ⟨hc, hr⟩ := not_or.mp (mt List.mem_cons.mpr h)
    rw [List.cons_append, stripUrlsFrom, bne_iff_ne.mpr (Ne.symm hc)]
    exact ih hr

/-- Where addresses are found before a border does not depend on the text behind it,
as long as that holds a closing bracket. -/
theorem startsUrl_behind {a b b' : List Char} (hlast : ∃ c ∈ a.getLast?, Border c)
    (hclose : ')' ∈ b') (h : startsUrl (a ++ b) = true) : startsUrl (a ++ b') = true := by
  have ha : a ≠ [] := by
    rintro rfl
    simp at hlast
  have hseam : Seam a b := Or.inr (Or.inl hlast)
  obtain ⟨lead, rest, heq, hlead, -⟩ := startsUrl_iff.mp h
  obtain ⟨more, rfl, -⟩ := hseam.opening ha hlead heq
  exact startsUrl_iff.mpr ⟨lead, more ++ b', by simp, hlead, List.mem_append_right _ hclose⟩

/-- An address that opens here is taken out with all that is put before its closing
bracket. -/
theorem stripUrlsFrom_lead {lead rest : List Char} (hlead : OpensAddress lead)
    (hrest : ')' ∉ rest) (inside : Bool) :
    stripUrlsFrom inside (lead ++ rest ++ [')']) = [] := by
  have hnone : ')' ∉ lead ++ rest := by simp [hlead.close_not_mem, hrest]
  cases inside with
  | true => exact stripUrlsFrom_inside hnone
  | false =>
    have hstarts : startsUrl (lead ++ rest ++ [')']) = true :=
      startsUrl_iff.mpr ⟨lead, rest ++ [')'], by simp, hlead, by simp⟩
    obtain ⟨c, more, rfl⟩ := List.exists_cons_of_ne_nil hlead.ne_nil
    rw [List.cons_append, List.cons_append] at hstarts ⊢
    rw [stripUrlsFrom, if_pos hstarts]
    exact stripUrlsFrom_inside fun hmem => hnone (List.mem_cons_of_mem c hmem)

/-- Where an address opens in a text that does not close it, what is taken out goes
on to the next closing bracket, so what is put before that does not matter. -/
theorem stripUrlsFrom_open {lead rest : List Char} (hlead : OpensAddress lead)
    (hrest : ')' ∉ rest) (hlast : ∃ c ∈ (lead ++ rest).getLast?, Border c) {q : List Char}
    (hq : ')' ∉ q) (front : List Char) (inside : Bool) :
    stripUrlsFrom inside (front ++ (lead ++ rest) ++ (q ++ [')'])) =
      stripUrlsFrom inside (front ++ (lead ++ rest) ++ [')']) := by
  induction front generalizing inside with
  | nil =>
    have hmore : ')' ∉ rest ++ q := by simp [hrest, hq]
    have hskip := stripUrlsFrom_lead hlead hmore inside
    rw [List.nil_append, stripUrlsFrom_lead hlead hrest]
    simpa using hskip
  | cons c front ih =>
    have hborder : ∃ d ∈ (c :: (front ++ (lead ++ rest))).getLast?, Border d := by
      obtain ⟨d, hd, hborder⟩ := hlast
      exact ⟨d, by simp [List.getLast?_cons, List.getLast?_append, Option.mem_def.mp hd], hborder⟩
    have hstarts : startsUrl (c :: (front ++ (lead ++ rest) ++ (q ++ [')']))) =
        startsUrl (c :: (front ++ (lead ++ rest) ++ [')'])) :=
      Bool.eq_iff_iff.mpr ⟨startsUrl_behind hborder (by simp), startsUrl_behind hborder (by simp)⟩
    cases inside with
    | true => exact ih _
    | false => simp only [List.cons_append, stripUrlsFrom, hstarts, ih]

/-- Behind an address that is not closed, a rule and a closing bracket are lost. -/
theorem addresses_of_keepsBehind {a : List Char} (hend : ['}'] <:+ a)
    (hcomments : ∃ code, Uncommented a code) (h : KeepsBehind a) :
    AddressesClosed (stripComments a) := by
  obtain ⟨init, rfl⟩ := hend
  obtain ⟨code, hcode⟩ := hcomments
  obtain ⟨code, rfl, -⟩ := hcode.of_concat (by decide)
  rw [stripComments_uncommented hcode]
  refine fun lead rest hin hlead => Decidable.byContradiction fun hrest => ?_
  have hlast : (lead ++ rest).getLast? = some '}' := by
    have hne : lead ++ rest ≠ [] := by simp [hlead.ne_nil]
    rw [List.getLast?_eq_some_getLast hne, hin.getLast hne, List.getLast_concat]
  obtain ⟨front, hfront⟩ := hin
  have hcloser : [')'] ∈ closers := by decide
  refine absurd h (not_keepsBehind hcloser
    (fun n => ?_ : ∀ n, _ = preludes (stripUrls (front ++ (lead ++ rest) ++ [')']))))
  have hplain : ')' ∉ (probe n).text := not_mem_probe (by decide) n
  rw [clean, stripComments_append hcode (by simp), stripComments_probe hcloser, ← hfront]
  exact congrArg preludes
    (stripUrlsFrom_open hlead hrest ⟨'}', hlast, by decide⟩ hplain front false)

/-! ## Braces too many -/

theorem preludesFrom_skip {depth : Int} (h : depth ≠ 0) {s : List Char} (hs : BraceFree s)
    (current r : List Char) : preludesFrom depth current (s ++ r) = preludesFrom depth current r := by
  induction s with
  | nil => rfl
  | cons c s ih =>
    obtain ⟨ho, hc, hs⟩ := hs.tail
    rw [List.cons_append, preludesFrom_step h, net_other ho hc, net_nil, Int.add_zero, ih hs]

theorem preludesFrom_probe {depth : Int} (h : depth ≠ 0) (current : List Char) (n : Nat) :
    preludesFrom depth current (probe n).text = [] := by
  rw [Block.text, preludesFrom_skip h (probe_sound n).selector]
  simp [probe, preludesFrom, h]

/-- Behind braces that do not cancel out, a rule is lost. -/
theorem braces_of_keepsBehind {a : List Char} (hend : ['}'] <:+ a) (hclosed : Closed a)
    (h : KeepsBehind a) : net (clean a) = 0 := by
  refine Decidable.byContradiction fun hbraces => ?_
  have hcloser : [] ∈ closers := by decide
  refine absurd h (not_keepsBehind hcloser (fun n => ?_ : ∀ n, _ = preludes (clean a)))
  obtain ⟨init, rfl⟩ := hend
  rw [hclosed.clean_append (by decide), clean_probe hcloser, List.append_nil,
    preludes_append_from, preludesFrom_probe hbraces, List.append_nil]

/-- **Only sealed stylesheets keep what stands behind them.** -/
theorem sealed_of_keepsBehind {a : List Char} (hend : ['}'] <:+ a) (h : KeepsBehind a) :
    Sealed a :=
  have hcomments := comments_of_keepsBehind h
  have hclosed : Closed a := ⟨hcomments, addresses_of_keepsBehind hend hcomments h⟩
  ⟨hclosed, braces_of_keepsBehind hend hclosed h⟩

end SiteAudit.Stylesheet
