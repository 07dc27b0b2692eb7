import SiteAudit.Proofs.Scan.Listing

/-!
# Places that a path is resolved to

`Disk.realParts` replaces the links and the steps back of a path, also where
nothing is there. What is left is a plain place: no part of it is a link or a
step back.

* `realParts_plain`: resolving a path gives a plain place.
* `followFrom_plain`: along a plain place one comes to the entry that is there,
  however few links may still be followed.
* `readText_resolved`: so whether the text at a resolved path can be read is
  decided by the entry alone.
-/
namespace SiteAudit.Disk

/-- A place that no link and no step back leads to. -/
structure Plain (disk : Disk) (place : List String) : Prop where
  forward : ".." ∉ place
  real : ∀ above, above <+: place → ∀ target, disk.entry? above ≠ some (.link target)

theorem plain_nil (disk : Disk) : disk.Plain [] := by
  refine ⟨by simp, fun above habove target h => ?_⟩
  obtain rfl := List.prefix_nil.mp habove
  cases h

theorem Plain.dropLast {disk : Disk} {place : List String} (h : disk.Plain place) :
    disk.Plain place.dropLast :=
  ⟨fun hmem => h.forward (List.dropLast_subset place hmem),
    fun above habove => h.real above (habove.trans (List.dropLast_prefix place))⟩

theorem Plain.snoc {disk : Disk} {place : List String} {name : String} (h : disk.Plain place)
    (hname : name ≠ "..") (hlink : ∀ target, disk.entry? (place ++ [name]) ≠ some (.link target)) :
    disk.Plain (place ++ [name]) := by
  refine ⟨fun hmem => ?_, fun above habove => ?_⟩
  · rcases List.mem_append.mp hmem with hmem | hmem
    · exact h.forward hmem
    · exact hname (List.mem_singleton.mp hmem).symm
  · rcases List.prefix_concat_iff.mp habove with rfl | habove
    · exact hlink
    · exact h.real above habove

/-- Where a link starts from is plain. -/
theorem linkParts?_plain {disk : Disk} {here start parts : List String} {target : String}
    (h : disk.linkParts? here target = some (start, parts)) (hhere : disk.Plain here) :
    disk.Plain start := by
  unfold linkParts? at h
  split at h
  · obtain ⟨rfl, -⟩ := by simpa using h
    exact plain_nil disk
  · obtain ⟨rfl, -⟩ := by simpa using h
    exact hhere
  · cases h

theorem realFrom_plain {disk : Disk} {links : Nat} {here parts place : List String}
    (h : disk.realFrom links here parts = .ok place) (hhere : disk.Plain here) :
    disk.Plain place := by
  fun_induction realFrom disk links here parts with
  | case1 links here =>
    obtain rfl := by simpa using h
    exact hhere
  | case2 links here more ih => exact ih h hhere.dropLast
  | case3 => cases h
  | case4 => cases h
  | case5 here name more hname target hlink k start parts hparts ih =>
    exact ih h (linkParts?_plain hparts hhere)
  | case6 links here name more hname hlink ih => exact ih h (hhere.snoc hname hlink)

/-- **What a path is resolved to is plain.** -/
theorem realParts_plain {disk : Disk} {p : Path} {place : List String}
    (h : disk.realParts p = .ok place) : disk.Plain place := by
  cases p with
  | below absolute parts => exact realFrom_plain h (plain_nil disk)
  | elsewhere text => cases h

/-! ## Following -/

theorem entryIn?_above {all : List (String × Entry)} {here more : List String} {name : String}
    {e : Entry} (h : entryIn? all (here ++ name :: more) = some e) :
    ∃ es, entryIn? all here = some (.directory es) ∧ ∃ x, es.lookup name = some x := by
  induction here generalizing all with
  | nil =>
    refine ⟨all, rfl, ?_⟩
    cases more with
    | nil => exact ⟨e, h⟩
    | cons next more =>
      obtain ⟨inner, hlookup, -⟩ := (Scan.entryIn?_cons (List.cons_ne_nil next more)).mp h
      exact ⟨_, hlookup⟩
  | cons first here ih =>
    have hne : here ++ name :: more ≠ [] := by simp
    obtain ⟨inner, hlookup, hinner⟩ := (Scan.entryIn?_cons hne).mp h
    obtain ⟨es, hes, hx⟩ := ih hinner
    exact ⟨es, (Scan.entryIn?_directory hlookup here).trans hes, hx⟩

/-- **Along a plain place** one comes to what is there. -/
theorem followFrom_plain {disk : Disk} (links : Nat) {here parts : List String} {e : Entry}
    (hplain : disk.Plain (here ++ parts)) (he : disk.entry? (here ++ parts) = some e) :
    disk.followFrom links here parts = .ok (here ++ parts, e) := by
  induction parts generalizing here with
  | nil =>
    rw [List.append_nil] at he
    rw [followFrom, he, List.append_nil]
  | cons name more ih =>
    obtain ⟨es, hes, x, hx⟩ := entryIn?_above he
    have hhere : disk.entry? here = some (.directory es) := hes
    have hname : name ≠ ".." := by
      rintro rfl
      exact hplain.forward (by simp)
    have hentry : disk.entry? (here ++ [name]) = some x :=
      (Scan.entryIn?_append hes [name]).trans hx
    have hsplit : here ++ name :: more = here ++ [name] ++ more := by simp
    have hstep : disk.followFrom links here (name :: more) =
        disk.followFrom links (here ++ [name]) more := by
      cases x with
      | link target => exact absurd hentry (hplain.real _ ⟨more, hsplit.symm⟩ target)
      | file bytes => simp [followFrom, hhere, hname, hx]
      | directory inner => simp [followFrom, hhere, hname, hx]
    rw [hstep, hsplit]
    rw [hsplit] at hplain he
    exact ih hplain he

/-- **The text at a resolved path.** A file has the text of its bytes, and
anything else is a directory. -/
theorem readText_resolved {disk : Disk} {p : Path} {place : List String} {e : Entry}
    (hplace : disk.realParts p = .ok place) (he : disk.entry? place = some e) :
    disk.readText (.below true place) =
      match e with
      | .file bytes => textOfBytes bytes
      | _ => .error (.path .isDirectory (disk.fullName place)) := by
  have hfollow : disk.follow (.below true place) = .ok (place, e) :=
    followFrom_plain maxLinks (realParts_plain hplace) he
  unfold readText readBytes
  rw [hfollow]
  cases e <;> rfl

end SiteAudit.Disk
