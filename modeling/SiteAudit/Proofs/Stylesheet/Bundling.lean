import SiteAudit.Proofs.Stylesheet.Seams

/-!
# Stylesheets put behind each other

A stylesheet is *sealed* if it closes by itself what it opens: its comments, its
addresses, and as many braces as it opens outside both. If it also ends with a
closing brace, another stylesheet can be put behind it, whatever that holds: the
two together define what they define apart.

* `Sealed.addSheet_append`: what a sealed stylesheet leaves to the text behind it.
* `sheets_bundle`: one file or two make no difference to a batch.
-/
namespace SiteAudit.Stylesheet

open Markup References

/-- The stylesheet leaves nothing open at its end: comments, addresses or braces. -/
structure Sealed (sheet : List Char) : Prop extends Closed sheet where
  braces : net (clean sheet) = 0

/-- **The law of the seam**, for the preludes: those of a sealed stylesheet come
first, and behind it the preludes are those of the text by itself. -/
theorem Sealed.preludes_append {a : List Char} (h : Sealed a) (hend : ['}'] <:+ a)
    (b : List Char) :
    preludes (clean (a ++ b)) = preludes (clean a) ++ preludes (clean b) := by
  obtain ⟨init, rfl⟩ := hend
  have hborder : Border '}' := by decide
  have hclean := ((closed_concat hborder).mp h.toClosed).clean_concat hborder
  have hbraces := h.braces
  rw [h.toClosed.clean_append hborder, hclean]
  rw [hclean] at hbraces
  exact Stylesheet.preludes_append hbraces _

theorem Sealed.addSheet_append {a : List Char} (h : Sealed a) (hend : ['}'] <:+ a)
    (b : List Char) (d : Definitions) : d.addSheet (a ++ b) = (d.addSheet a).addSheet b := by
  have hnames : ∀ kind, namesOf kind (selectorText (a ++ b)) =
      namesOf kind (selectorText a) ++ namesOf kind (selectorText b) := by
    intro kind
    simp only [namesOf_selectorText, h.preludes_append hend, List.flatMap_append]
  have hclasses : classNames (selectorText (a ++ b)) = _ := hnames .cls
  have hids : idNames (selectorText (a ++ b)) = _ := hnames .id
  simp only [Definitions.addSheet, hclasses, hids, List.foldl_append]
  rfl

/-! ## Batches -/

theorem addFile_sheet {file : SourceFile} (h : isSheet file.path = true) (d : Definitions) :
    addFile d file = d.addSheet file.content.toList := by
  simp [addFile, h, isMarkup_of_isSheet h]

theorem check_congr (ignore : List Pattern.Compiled) (read : Read) {files files' : List SourceFile}
    (hdefinitions : definitions files' = definitions files)
    (hmarkup : files'.filter (fun f => isMarkup f.path) =
      files.filter (fun f => isMarkup f.path)) :
    References.check ignore read files' = References.check ignore read files := by
  simp only [References.check, References.issues, allUsages, hdefinitions, hmarkup]

/-- **Stylesheets can be bundled.** Behind a sealed stylesheet that ends with a
closing brace any text may follow: both together define what the first defines and
what the second defines, and nothing else. So a batch that has them in one file
has the definitions and the report of the batch that has them in two. An address
opens with `url` in any case and a bracket, with blanks between them or without. -/
theorem sheets_bundle {a : List Char} (hend : ['}'] <:+ a) (hsealed : Sealed a) (b : List Char) :
    (∀ kind name, defines (Definitions.addSheet {} (a ++ b)) kind name =
      (defines (Definitions.addSheet {} a) kind name ||
        defines (Definitions.addSheet {} b) kind name)) ∧
    ∀ (ignore : List Pattern.Compiled) (read : Read) (before after : List SourceFile)
      (whole first second : SourceFile), isSheet whole.path = true → isSheet first.path = true →
      isSheet second.path = true → whole.content.toList = a ++ b → first.content.toList = a →
      second.content.toList = b →
      definitions (before ++ [whole] ++ after) = definitions (before ++ [first, second] ++ after) ∧
      References.check ignore read (before ++ [whole] ++ after) =
        References.check ignore read (before ++ [first, second] ++ after) := by
  refine ⟨fun kind name => ?_, ?_⟩
  · rw [hsealed.addSheet_append hend, additive_addSheet]
  · intro ignore read before after whole first second hwhole hfirst hsecond hab ha hb
    have hdefinitions : definitions (before ++ [whole] ++ after) =
        definitions (before ++ [first, second] ++ after) := by
      simp only [definitions, List.foldl_append, List.foldl_cons, List.foldl_nil,
        addFile_sheet hwhole, addFile_sheet hfirst, addFile_sheet hsecond, hab, ha, hb,
        hsealed.addSheet_append hend]
    refine ⟨hdefinitions, check_congr ignore read hdefinitions ?_⟩
    simp [isMarkup_of_isSheet hwhole, isMarkup_of_isSheet hfirst, isMarkup_of_isSheet hsecond]

/-- A brace in an address and one in a comment, and behind them a text that closes
nothing. -/
theorem sheets_bundle_unclosed :
    let a := ".a\x7bb:url(\x7d)/*\x7b*/\x7d".toList
    let b := "#d\x7b/*".toList
    ['}'] <:+ a ∧ Sealed a ∧
    (∀ kind name, defines (Definitions.addSheet {} (a ++ b)) kind name =
      (defines (Definitions.addSheet {} a) kind name ||
        defines (Definitions.addSheet {} b) kind name)) ∧
    Definitions.addSheet {} (a ++ b) = { classes := ["a"], ids := ["d"] } := by
  intro a b
  have hend : ['}'] <:+ a := by decide +kernel
  have hcut : WithComments ".a\x7bb:url(\x7d)\x7d".toList a :=
    .behind ".a\x7bb:url(\x7d)".toList (.comment ['{'] (by decide) (.behind ['}'] .nil))
  have hsealed : Sealed a :=
    ⟨⟨⟨_, hcut.uncommented (by decide +kernel)⟩, by decide +kernel⟩, by decide +kernel⟩
  exact ⟨hend, hsealed, (sheets_bundle hend hsealed b).1, by decide +kernel⟩

end SiteAudit.Stylesheet
