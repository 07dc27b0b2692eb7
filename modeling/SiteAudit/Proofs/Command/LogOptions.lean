import SiteAudit.Proofs.Command.Exclusion

/-!
# How the options of the log are written

A flag for the volume is one word. A log file is named by the word behind its option,
or in the same word behind an equals sign. Names may be shortened. All of this means
the same for the program and for its commands.

* `LogOption.gives`: an option of the log is one option at both levels.
* `logOption_flag`, `logOption_file`, `logOption_joined`: options of the log by their
  names.
-/
namespace SiteAudit.Command

/-! ## One option of the log -/

/-- Arguments that give one option and nothing else. -/
structure Gives (l : Level) (args : List String) (s : Setting) (value : String) : Prop where
  noSeparator : "--" ∉ args
  read : ∃ items, classify l args = .ok items ∧ whole l false items = true ∧
    ∀ takesPath rest, Reads l takesPath rest items [(s, some value)] rest

/-- The ways to write an option of the log, understood by the program and by a command:
a flag, an option with a file in the word behind it, and one with both in one word. -/
inductive LogOption (l : Level) : Setting → List String → Prop
  | flag {s : Setting} {arg : String} : s ∈ volumeSettings →
      (∀ m ∈ [.program, l], ∃ name, classifyOne m arg = .ok (.option s name none)) →
      LogOption l s [arg]
  | file {arg file : String} :
      (∀ m ∈ [.program, l], (∃ name, classifyOne m arg = .ok (.option .logFile name none)) ∧
        classifyOne m file = .ok .plain) →
      LogOption l .logFile [arg, file]
  | joined {arg file : String} :
      (∀ m ∈ [.program, l],
        ∃ name, classifyOne m arg = .ok (.option .logFile name (some file))) →
      LogOption l .logFile [arg]

theorem Gives.complete {l : Level} {args : List String} {s : Setting} {value : String}
    (h : Gives l args s value) : complete l false args = true := by
  obtain ⟨hseparator, items, hitems, hwhole, -⟩ := h
  refine complete_iff.mpr ⟨hseparator, fun found hfound => ?_⟩
  rw [hitems] at hfound
  cases hfound
  exact hwhole

section Written

variable {l : Level} {s : Setting} {name : String}

theorem readOption_one {written next value : Option String}
    (h : spelled l s name written next = .ok [(s, value)]) (g : Given) :
    readOption l g s name written next =
      (apply l g s (value.getD "")).map (·, (Kind.option s name written).wantsWord l) := by
  rw [readOption_eq, h]
  simp only [Except.bind, applyAll, bind]
  cases apply l g s (value.getD "") <;> rfl

/-- Arguments whose words all belong to one option. -/
theorem Gives.of_spelled {arg : String} {args : List String} {written value : Option String}
    {more : List (String × Kind)} (hseparator : "--" ∉ args)
    (hitems : classify l args = .ok ((arg, .option s name written) :: more))
    (hwhole : whole l false ((arg, .option s name written) :: more) = true)
    (hspelled : spelled l s name written (plainNext more) = .ok [(s, value)])
    (hmore : (if (Kind.option s name written).wantsWord l then more.drop 1 else more) = []) :
    Gives l args s (value.getD "") := by
  refine ⟨hseparator, _, hitems, hwhole, fun takesPath rest => ⟨?_, fun a => ?_⟩⟩
  · have hnone : given l more = [] := by
      rw [← given_behind (plainNext_ne_none hspelled), hmore]
      rfl
    rw [given_cons, hnone, ← spelled_settings hspelled]
    rfl
  · rw [readItems_option, readOption_one hspelled]
    simp only [applyAll, bind, Option.getD_some]
    cases apply l a s (value.getD "") with
    | error e => rfl
    | ok g =>
      simp only [Except.map, Except.bind, hmore]
      rfl

theorem ne_separator {arg : String} {kind : Kind} (h : classifyOne l arg = .ok kind) :
    arg ≠ "--" := by
  rintro rfl
  have hnone : ∀ m, (classifyOne m "--").toOption = none := by
    intro m
    cases m <;> decide +kernel
  have hl := hnone l
  rw [h] at hl
  cases hl

theorem gives_flag (hs : s ∈ volumeSettings) {arg : String}
    (h : classifyOne l arg = .ok (.option s name none)) : Gives l [arg] s "" := by
  have hne := ne_separator h
  have hspelled : spelled l s name none (plainNext []) = .ok [(s, none)] := by
    obtain rfl | rfl := volume_cases hs <;> rfl
  have hwants : (Kind.option s name none).wantsWord l = false := by
    obtain rfl | rfl := volume_cases hs <;> rfl
  have hitems : classify l [arg] = .ok [(arg, .option s name none)] := by
    rw [classify_cons hne, h]
    rfl
  exact .of_spelled (by simpa using hne.symm) hitems (by simp [whole, hwants]) hspelled
    (by rw [hwants]; rfl)

theorem gives_file {arg file : String} (h : classifyOne l arg = .ok (.option .logFile name none))
    (hfile : classifyOne l file = .ok .plain) : Gives l [arg, file] .logFile file := by
  have hne := ne_separator h
  have hneFile := ne_separator hfile
  have hwants : (Kind.option .logFile name none).wantsWord l = true := rfl
  have hspelled : spelled l .logFile name none (plainNext [(file, .plain)]) =
      .ok [(.logFile, some file)] := rfl
  have hitems : classify l [arg, file] =
      .ok [(arg, .option .logFile name none), (file, .plain)] := by
    rw [classify_cons hne, h, classify_cons hneFile, hfile]
    rfl
  exact .of_spelled (by simp [hne.symm, hneFile.symm]) hitems (by simp [whole, hwants]) hspelled
    (by rw [hwants]; rfl)

theorem gives_joined {arg file : String}
    (h : classifyOne l arg = .ok (.option .logFile name (some file))) :
    Gives l [arg] .logFile file := by
  have hne := ne_separator h
  have hwants : (Kind.option .logFile name (some file)).wantsWord l = false := rfl
  have hspelled : spelled l .logFile name (some file) (plainNext []) =
      .ok [(.logFile, some file)] := rfl
  have hitems : classify l [arg] = .ok [(arg, .option .logFile name (some file))] := by
    rw [classify_cons hne, h]
    rfl
  exact .of_spelled (by simpa using hne.symm) hitems (by simp [whole, hwants]) hspelled
    (by rw [hwants]; rfl)

end Written

theorem LogOption.gives {l : Level} {s : Setting} {option : List String}
    (h : LogOption l s option) :
    ∃ value, Gives .program option s value ∧ Gives l option s value := by
  have hprogram : Level.program ∈ [.program, l] := List.mem_cons_self ..
  have hcommand : l ∈ [.program, l] := List.mem_cons_of_mem _ (List.mem_cons_self ..)
  cases h with
  | flag hs h =>
    obtain ⟨_, hp⟩ := h _ hprogram
    obtain ⟨_, hc⟩ := h _ hcommand
    exact ⟨_, gives_flag hs hp, gives_flag hs hc⟩
  | file h =>
    obtain ⟨⟨_, hp⟩, hfileP⟩ := h _ hprogram
    obtain ⟨⟨_, hc⟩, hfileC⟩ := h _ hcommand
    exact ⟨_, gives_file hp hfileP, gives_file hc hfileC⟩
  | joined h =>
    obtain ⟨_, hp⟩ := h _ hprogram
    obtain ⟨_, hc⟩ := h _ hcommand
    exact ⟨_, gives_joined hp, gives_joined hc⟩

theorem LogOption.setting {l : Level} {s : Setting} {option : List String}
    (h : LogOption l s option) : s ∈ volumeSettings ∨ s = .logFile := by
  cases h with
  | flag hs _ => exact .inl hs
  | file _ | joined _ => exact .inr rfl

/-! ## By their names -/

theorem classifyOne_name {s : Setting} (hs : s = .logFile ∨ s ∈ volumeSettings) {name : String}
    (hname : name ∈ s.names) (l : Level) : classifyOne l name = .ok (.option s name none) := by
  have hnames : ∀ t ∈ Setting.logFile :: volumeSettings, ∀ n ∈ t.names,
      n.startsWith "-" = true ∧ l.named.lookup n = some t := by
    cases l <;> decide +kernel
  obtain ⟨hdash, hlookup⟩ := hnames s (List.mem_cons.mpr hs) name hname
  simp [classifyOne, hdash, hlookup]

theorem logOption_flag {l : Level} {s : Setting} (hs : s ∈ volumeSettings) {name : String}
    (hname : name ∈ s.names) : LogOption l s [name] :=
  .flag hs fun m _ => ⟨name, classifyOne_name (.inr hs) hname m⟩

theorem logOption_file {l : Level} {file : String}
    (h : ∀ m ∈ [.program, l], classifyOne m file = .ok .plain) :
    LogOption l .logFile ["--log-file", file] :=
  .file fun m hm => ⟨⟨_, classifyOne_name (.inl rfl) (by decide) m⟩, h m hm⟩

theorem toList_joined (file : String) :
    ("--log-file=" ++ file).toList = "--log-file".toList ++ '=' :: file.toList := by
  rw [String.toList_append]
  rfl

theorem splitValue_joined (file : String) :
    splitValue ("--log-file=" ++ file) = ("--log-file", some file) := by
  have hmark : "--log-file".toList.all (· != '=') = true := by decide +kernel
  have hname : ("--log-file=" ++ file).toList.takeWhile (· != '=') = "--log-file".toList := by
    rw [toList_joined, List.takeWhile_append_of_pos (List.all_eq_true.mp hmark),
      List.takeWhile_cons_of_neg (by decide), List.append_nil]
  have hlength : "--log-file".toList.length ≠ ("--log-file=" ++ file).length := by
    rw [← String.length_toList, toList_joined, List.length_append, List.length_cons]
    omega
  have hrest : ("--log-file=" ++ file).toList.drop ("--log-file".toList.length + 1) =
      file.toList := by
    rw [toList_joined]
    exact List.drop_length_add_append ..
  simp only [splitValue, hname, if_neg hlength, hrest, String.ofList_toList]

theorem classifyOne_joined (l : Level) (file : String) :
    classifyOne l ("--log-file=" ++ file) = .ok (.option .logFile "--log-file" (some file)) := by
  have hdash : ("--log-file=" ++ file).startsWith "-" = true := by
    rw [String.startsWith_string_iff, toList_joined]
    exact ⟨_, rfl⟩
  -- no name of an option has an equals sign
  have hne : ∀ n : String, '=' ∉ n.toList → "--log-file=" ++ file ≠ n := by
    rintro n hn rfl
    rw [toList_joined] at hn
    exact hn (by simp)
  have hnone : l.named.lookup ("--log-file=" ++ file) = none := by
    have hnames : ∀ x ∈ l.named, '=' ∉ x.1.toList := by
      cases l <;> decide +kernel
    rw [List.lookup_eq_none_iff]
    intro x hx
    simpa using hne x.1 (hnames x hx)
  have hlookup : l.named.lookup "--log-file" = some .logFile := by cases l <;> decide +kernel
  simp [classifyOne, hdash, hnone, hne "-" (by decide), splitValue_joined, hlookup]

theorem logOption_joined (l : Level) (file : String) :
    LogOption l .logFile ["--log-file=" ++ file] :=
  .joined fun m _ => ⟨_, classifyOne_joined m file⟩

end SiteAudit.Command
