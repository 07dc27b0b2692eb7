import SiteAudit.Text.Blank

/-!
# What a text begins and ends with

`after?` takes a lead off the front of a text. So `startsWith` and `endsWith` ask
for what the order of beginnings and that of ends say.
-/
namespace SiteAudit.Text

theorem after?_eq_some_iff {lead s rest : List Char} :
    after? lead s = some rest ↔ s = lead ++ rest := by
  fun_induction after? lead s with
  | case1 s => simp [eq_comm]
  | case2 c lead => simp
  | case3 lead c s ih => simp [ih]
  | case4 c lead d s hne => simp [Ne.symm hne]

theorem startsWith_iff {lead s : List Char} : startsWith lead s = true ↔ lead <+: s := by
  simp only [startsWith, Option.isSome_iff_exists, after?_eq_some_iff]
  exact ⟨fun ⟨rest, h⟩ => ⟨rest, h.symm⟩, fun ⟨rest, h⟩ => ⟨rest, h.symm⟩⟩

theorem endsWith_iff {tail s : List Char} : endsWith tail s = true ↔ tail <:+ s := by
  rw [endsWith, startsWith_iff, List.reverse_prefix]

end SiteAudit.Text
