import Mathlib.Data.List.Basic
import TemplateMarkup.CommandLine.Run

namespace TemplateMarkup.CommandLine

-- The arguments ask for a command in the project at `root`, with or without colors.
def Asks (wantsColor : Bool) (arguments : List String) (root : String) (colored : Bool)
    (command : Command) : Prop :=
  ∃ invocation, request arguments = .invoke invocation ∧ invocation.root = root ∧
    (wantsColor && !invocation.noColor) = colored ∧ invocation.command = some command

theorem run_of_asks (files : FileSystem) {wantsColor colored : Bool} {arguments : List String}
    {root : String} {command : Command} (h : Asks wantsColor arguments root colored command) :
    run files wantsColor arguments = commandOutcome files colored root command := by
  obtain ⟨invocation, hrequest, hroot, hcolored, hcommand⟩ := h
  simp only [run, hrequest, hcommand, hcolored, hroot]

section Arguments

variable {root : String}

theorem readTop_root (hroot : root ≠ "") (rest : List String) :
    readTop {} none (("--path=" ++ root) :: rest) =
      readTop { shared := { path := some root } } none rest := by
  have hshape : shape ("--path=" ++ root) = .long "path" (some root) := by
    simp [shape, String.toList_append]
  have hset : setValue {} .path root = .ok { shared := { path := some root } } := by
    simp [setValue, hroot]
  have hread : readDashed .top {} (.long "path" (some root)) =
      .ok ({ shared := { path := some root } }, none) := by
    change (setValue {} .path root).map (·, none) = _
    rw [hset]
    rfl
  simp only [readTop, hshape, hread]

theorem addFiles_check {names : List String} (hnames : ∀ file ∈ names, file ≠ "")
    (progress : Progress) :
    names.foldlM (addFile .check) progress =
      .ok { progress with files := progress.files ++ names } := by
  induction names generalizing progress with
  | nil => simp [pure, Except.pure]
  | cons file names ih =>
      have hfile : addFile .check progress file =
          .ok { progress with files := progress.files ++ [file] } := by
        simp [addFile, hnames file List.mem_cons_self]
      rw [List.foldlM_cons, hfile]
      have hrest := ih (fun other hm => hnames other (List.mem_cons_of_mem file hm))
        { progress with files := progress.files ++ [file] }
      rw [List.append_assoc, List.singleton_append] at hrest
      exact hrest

-- Every project and every list of files can be asked about, whatever their names.
theorem asks_check (wantsColor : Bool) (hroot : root ≠ "") {names : List String}
    (hnonempty : names ≠ []) (hnames : ∀ file ∈ names, file ≠ "") :
    Asks wantsColor (("--path=" ++ root) :: "check" :: "--" :: names) root wantsColor
      (.check names) := by
  obtain ⟨first, more, rfl⟩ := List.exists_cons_of_ne_nil hnonempty
  refine ⟨⟨some root, false, false, some (.check (first :: more))⟩, ?_, rfl, by simp, rfl⟩
  have htop : readTop { shared := { path := some root } } none
      ("check" :: "--" :: first :: more) =
      runCommand .check { shared := { path := some root } } ("--" :: first :: more) := rfl
  have hread : readCommand .check {} none ("--" :: first :: more) =
      .ok { files := first :: more } := addFiles_check hnames {}
  rw [request, readTop_root hroot, htop, runCommand, hread]
  rfl

theorem asks_parse (wantsColor : Bool) (hroot : root ≠ "") {file : String} (hfile : file ≠ "") :
    Asks wantsColor ["--path=" ++ root, "parse", "--", file] root wantsColor
      (.parse file .text false) := by
  refine ⟨⟨some root, false, false, some (.parse file .text false)⟩, ?_, rfl, by simp, rfl⟩
  have htop : readTop { shared := { path := some root } } none ["parse", "--", file] =
      runCommand .parse { shared := { path := some root } } ["--", file] := rfl
  have hread : readCommand .parse {} none ["--", file] = .ok { files := [file] } := by
    change [file].foldlM (addFile .parse) {} = _
    simp [addFile, hfile]
  rw [request, readTop_root hroot, htop, runCommand, hread]
  rfl

end Arguments

-- The line that says that a file is in order.
def okLine (colored : Bool) (file : String) : String :=
  line (styled colored .green "ok" ++ " " ++ file)

-- The last line of a check in which files failed.
def failureLine (colored : Bool) (failures total : Nat) : String :=
  let label := styled colored .red "error:"
  s!"{label} {failures} of {total} template(s) failed to parse"

def Outcome.isClean (outcome : Outcome) : Bool :=
  outcome.exitCode == 0

-- What a check of files says, given what parsing each of them alone leads to.
structure Outcome.Combines (outcome : Outcome) (colored : Bool) (names : List String)
    (alone : String → Outcome) : Prop where
  output : outcome.output =
    String.join ((names.filter fun file => (alone file).isClean).map (okLine colored))
  faults : outcome.faults = names.flatMap fun file => (alone file).faults
  codes : outcome.plainCodes = names.flatMap fun file => (alone file).plainCodes
  passed : (∀ file ∈ names, (alone file).isClean = true) →
    outcome.exitCode = 0 ∧ outcome.summary = none
  failed : (∃ file ∈ names, (alone file).isClean = false) →
    outcome.exitCode = 1 ∧ outcome.summary = some
      (failureLine colored (names.countP fun file => !(alone file).isClean) names.length)

section Files

variable {files : FileSystem} {profile : Profile} {colored : Bool} {names : List String}
  {alone : String → Outcome}

-- Parsing a file alone goes well or reports one fault, and a check of the file says the same.
inductive Verdict (files : FileSystem) (profile : Profile) (colored : Bool) (file : String)
    (outcome : Outcome) : Prop where
  | passed : outcome.colored = colored → outcome.exitCode = 0 → outcome.faults = [] →
      checkFile files profile colored file = .ok (okLine colored file) → Verdict ..
  | failed (fault : Fault) : outcome.colored = colored → outcome.exitCode = 2 →
      outcome.faults = [fault] → checkFile files profile colored file = .error fault → Verdict ..

-- To keep white space makes no difference in a project that keeps it anyway.
theorem verdict_parseOutcome (file : String) (format : OutputFormat) {keepSpace : Bool}
    (hspace : keepSpace = true → profile.compress = false) :
    Verdict files profile colored file
      (parseOutcome files profile colored file format keepSpace) := by
  have hprofile :
      (if keepSpace then { profile with compress := false } else profile) = profile := by
    cases keepSpace with
    | false => rfl
    | true => rw [← hspace rfl, if_pos rfl]
  simp only [parseOutcome, hprofile]
  cases hparse : profile.parseFile files file with
  | ok template => exact .passed rfl rfl rfl (by rw [checkFile, hparse]; rfl)
  | error fault => exact .failed fault rfl rfl rfl (by rw [checkFile, hparse])

theorem Verdict.colored_eq {file : String} {outcome : Outcome}
    (h : Verdict files profile colored file outcome) : outcome.colored = colored := by
  cases h with
  | passed hcolored => exact hcolored
  | failed fault hcolored => exact hcolored

-- The lines and faults of a check come from its files one by one.
theorem gathered_results
    (halone : ∀ file ∈ names, Verdict files profile colored file (alone file)) :
    let results := names.map (checkFile files profile colored)
    results.filterMap okLine? =
        (names.filter fun file => (alone file).isClean).map (okLine colored) ∧
      results.filterMap fault? = names.flatMap (fun file => (alone file).faults) ∧
      (results.filterMap fault?).length = names.countP fun file => !(alone file).isClean := by
  induction names with
  | nil => exact ⟨rfl, rfl, rfl⟩
  | cons file names ih =>
      obtain ⟨hlines, hfaults, hcount⟩ :=
        ih fun other hm => halone other (List.mem_cons_of_mem file hm)
      dsimp only at hlines hfaults hcount ⊢
      rw [List.map_cons, List.filterMap_cons, List.filterMap_cons, List.filter_cons,
        List.flatMap_cons, List.countP_cons, ← hfaults, ← hcount]
      cases halone file List.mem_cons_self with
      | passed _ hexit hnone hcheck =>
          simp [hcheck, okLine?, fault?, hexit, hnone, Outcome.isClean, hlines]
      | failed fault _ hexit hone hcheck =>
          simp [hcheck, okLine?, fault?, hexit, hone, Outcome.isClean, hlines]

theorem combines_checkOutcome
    (halone : ∀ file ∈ names, Verdict files profile colored file (alone file)) :
    (checkOutcome files profile colored names).Combines colored names alone := by
  obtain ⟨hlines, hfaults, hcount⟩ := gathered_results halone
  let results := names.map (checkFile files profile colored)
  have houtput : (checkOutcome files profile colored names).output =
      String.join (results.filterMap okLine?) := by
    simp only [checkOutcome]
    split <;> rfl
  have hreported : (checkOutcome files profile colored names).faults =
      results.filterMap fault? := by
    simp only [checkOutcome]
    split
    · rename_i hempty
      exact (List.isEmpty_iff.mp hempty).symm
    · rfl
  have hcolored : (checkOutcome files profile colored names).colored = colored := by
    simp only [checkOutcome]
    split <;> rfl
  have hempty : (results.filterMap fault?).isEmpty = true ↔
      ∀ file ∈ names, (alone file).isClean = true := by
    rw [List.isEmpty_iff, ← List.length_eq_zero_iff, hcount, List.countP_eq_zero]
    simp
  constructor
  · rw [houtput, hlines]
  · rw [hreported, hfaults]
  · rw [Outcome.plainCodes, hcolored, hreported, hfaults, List.map_flatMap]
    have hcodes : ∀ file ∈ names, (alone file).plainCodes =
        if colored then [] else (alone file).faults.map Fault.code := by
      intro file hm
      rw [Outcome.plainCodes, (halone file hm).colored_eq]
    rw [List.flatMap_congr hcodes]
    cases colored with
    | true => simp
    | false => rfl
  · intro hclean
    simp only [checkOutcome]
    rw [if_pos (hempty.mpr hclean)]
    exact ⟨rfl, rfl⟩
  · rintro ⟨file, hm, hfile⟩
    have hfound : ¬(results.filterMap fault?).isEmpty = true := by
      intro hnone
      rw [hempty.mp hnone file hm] at hfile
      cases hfile
    simp only [checkOutcome]
    rw [if_neg hfound, ← hcount]
    exact ⟨rfl, rfl⟩

end Files

-- A check says of every file what parsing it alone says, whatever files stand around it, and sums
-- up how many failed. A file has a line of its own exactly when parsing it ends well. The parsing
-- treats white space as the project does, since a check has no option for it.
theorem run_check {files : FileSystem} {root : String} {profile : Profile}
    (hprofile : Profile.load files root = .ok profile) {wantsColor colored : Bool}
    {names arguments : List String}
    (hcheck : Asks wantsColor arguments root colored (.check names))
    (alone : String → List String)
    (halone : ∀ file ∈ names, ∃ format keepSpace,
      Asks wantsColor (alone file) root colored (.parse file format keepSpace) ∧
        (keepSpace = true → profile.compress = false)) :
    let parsed := fun file => run files wantsColor (alone file)
    let checked := run files wantsColor arguments
    (∀ file ∈ names, (parsed file).exitCode = 0 ∧ (parsed file).faults = [] ∨
      (parsed file).exitCode = 2 ∧ ∃ fault, (parsed file).faults = [fault]) ∧
    checked.Combines colored names parsed ∧
    ∀ front back, names = front ++ back → ∀ first second,
      Asks wantsColor first root colored (.check front) →
      Asks wantsColor second root colored (.check back) →
        let before := run files wantsColor first
        let behind := run files wantsColor second
        checked.output = before.output ++ behind.output ∧
          checked.plainCodes = before.plainCodes ++ behind.plainCodes := by
  intro parsed checked
  have hverdict : ∀ file ∈ names, Verdict files profile colored file (parsed file) := by
    intro file hm
    obtain ⟨format, keepSpace, hasks, hspace⟩ := halone file hm
    have hparsed : parsed file = _ := run_of_asks files hasks
    rw [hparsed, commandOutcome, hprofile]
    exact verdict_parseOutcome file format hspace
  have hcombines : ∀ {part arguments}, (∀ file ∈ part, file ∈ names) →
      Asks wantsColor arguments root colored (.check part) →
        (run files wantsColor arguments).Combines colored part parsed := by
    intro part arguments hpart hasks
    rw [run_of_asks files hasks, commandOutcome, hprofile]
    exact combines_checkOutcome fun file hm => hverdict file (hpart file hm)
  refine ⟨fun file hm => ?_, hcombines (fun _ hm => hm) hcheck, ?_⟩
  · cases hverdict file hm with
    | passed _ hexit hnone => exact .inl ⟨hexit, hnone⟩
    | failed fault _ hexit hone => exact .inr ⟨hexit, fault, hone⟩
  · rintro front back rfl first second hfirst hsecond before behind
    have hfront := hcombines (fun file hm => List.mem_append_left back hm) hfirst
    have hback := hcombines (fun file hm => List.mem_append_right front hm) hsecond
    have hall := hcombines (fun _ hm => hm) hcheck
    constructor
    · rw [hall.output, hfront.output, hback.output, List.filter_append, List.map_append,
        String.join_append]
    · rw [hall.codes, hfront.codes, hback.codes, List.flatMap_append]

-- A project without settings that has one template.
def smallProject : FileSystem := fun path =>
  if path = "a.tml" then .ok "<p/>".toUTF8 else .error .notFound

def checkArguments (names : List String) : List String :=
  "--path=." :: "check" :: "--" :: names

theorem run_check_repeatedFile :
    let names := ["a.tml", "b.tml", "a.tml"]
    let parsed := fun file => run smallProject false ["--path=.", "parse", "--", file]
    let checked := run smallProject false (checkArguments names)
    let before := run smallProject false (checkArguments ["a.tml"])
    let behind := run smallProject false (checkArguments ["b.tml", "a.tml"])
    Profile.load smallProject "." = .ok .standard ∧
      Asks false (checkArguments names) "." false (.check names) ∧
      (∀ file ∈ names, Asks false ["--path=.", "parse", "--", file] "." false
        (.parse file .text false)) ∧
      checked.Combines false names parsed ∧
      checked.output = before.output ++ behind.output ∧ checked.output = "ok a.tml\nok a.tml\n" ∧
      checked.plainCodes = before.plainCodes ++ behind.plainCodes ∧
      checked.plainCodes = ["tml::io_error"] ∧ (parsed "b.tml").plainCodes = ["tml::io_error"] ∧
      checked.exitCode = 1 ∧
      checked.summary = some "error: 1 of 3 template(s) failed to parse" := by
  intro names parsed checked before behind
  have hprofile : Profile.load smallProject "." = .ok .standard := rfl
  have hroot : "." ≠ "" := by decide
  have hcheck : ∀ part ∈ [names, ["a.tml"], ["b.tml", "a.tml"]],
      Asks false (checkArguments part) "." false (.check part) := by
    intro part hm
    have hpart : part ≠ [] ∧ ∀ file ∈ part, file ≠ "" := by
      revert part
      decide
    exact asks_check false hroot hpart.1 hpart.2
  have hparse : ∀ file ∈ names, Asks false ["--path=.", "parse", "--", file] "." false
      (.parse file .text false) := by
    intro file hm
    have hfile : file ≠ "" := by
      revert file
      decide
    exact asks_parse false hroot hfile
  obtain ⟨-, hcombines, hparts⟩ := run_check hprofile (hcheck names (by simp))
    (fun file => ["--path=.", "parse", "--", file])
    fun file hm => ⟨.text, false, hparse file hm, nofun⟩
  obtain ⟨houtput, hcodes⟩ := hparts ["a.tml"] ["b.tml", "a.tml"] rfl _ _
    (hcheck ["a.tml"] (by simp)) (hcheck ["b.tml", "a.tml"] (by simp))
  exact ⟨hprofile, hcheck names (by simp), hparse, hcombines, houtput, by decide +kernel, hcodes,
    by decide +kernel, by decide +kernel, by decide +kernel, by decide +kernel⟩

end TemplateMarkup.CommandLine
