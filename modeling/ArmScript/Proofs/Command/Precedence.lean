import ArmScript.Disk.Tree
import ArmScript.Proofs.Command.Outcome

/-!
Which settings count. At most one file gives them, and a run depends on that file and on its script alone: what else
the disk holds changes neither the failure nor the report. A switch takes its table out of the report and leaves the
rest.
-/
set_option autoImplicit false

namespace ArmScript

def Request.settingsFiles (r : Request) (disk : Disk) : List (String × Found) :=
  (r.config.map fun path => (path, disk.look path)).toList ++
    (localConfigPath, disk.look localConfigPath) :: disk.system.toList

/-- The file that counts. One that was asked for counts whether it is there or not. -/
def Request.choose (r : Request) (files : List (String × Found)) : Option (String × Found) :=
  if r.config.isSome then files.head? else files.find? fun file => file.2.isPresent

def Outcome.result (o : Outcome) : Option Failure × String := (o.failure, o.report)

section Choice
variable {r : Request} {disk other : Disk}

theorem Request.file?_configSource (r : Request) (disk : Disk) :
    (r.configSource disk).file? disk = r.choose (r.settingsFiles disk) := by
  unfold configSource choose settingsFiles
  cases r.config with
  | some path => rfl
  | none =>
    cases present : (disk.look localConfigPath).isPresent with
    | true => simp [ConfigSource.file?, present]
    | false =>
      cases system : disk.system with
      | none => simp [ConfigSource.file?, present]
      | some file =>
        cases there : file.2.isPresent <;> simp [ConfigSource.file?, present, there, system]

theorem Request.choose_append {higher lower : List (String × Found)} {chosen : String × Found}
    (h : r.choose (higher ++ chosen :: lower) = some chosen) (others : List (String × Found)) :
    r.choose (higher ++ chosen :: others) = some chosen := by
  unfold choose at h ⊢
  split
  · next asked =>
    rw [if_pos asked] at h
    cases higher with
    | nil => rfl
    | cons file higher => exact h
  · next free =>
    rw [if_neg free, List.find?_append] at h
    rw [List.find?_append]
    cases first : higher.find? fun file => file.2.isPresent with
    | some file =>
      rw [first] at h
      exact h
    | none =>
      -- a file that is chosen here is there
      have present : chosen.2.isPresent = true := by
        rw [first, Option.none_or] at h
        exact List.find?_some (p := fun file : String × Found => file.2.isPresent) h
      simp [present]

theorem Request.program_congr (h : ∀ path, r.input = some path → other.look path = disk.look path) :
    r.program other = r.program disk := by
  unfold program
  cases input : r.input with
  | none => cases r.sample <;> rfl
  | some path => simp only [h path input]

end Choice

section Result

theorem result_runProgram (name source : String) (options : ReportOptions) (notices notices' : List Notice) :
    (runProgram name source options notices').result = (runProgram name source options notices).result := by
  rw [runProgram, runProgram]
  cases (analyze source).isClean <;> rfl

variable {r : Request} {disk other : Disk}

theorem result_of_settings_error {cause : Failure} (h : readOptions (r.choose (r.settingsFiles disk)) = .error cause) :
    (run r disk).result = (some cause, "") := by
  rw [run, r.file?_configSource, h]
  rfl

theorem result_of_program_error {settings : ReportOptions} {cause : Failure}
    (settled : readOptions (r.choose (r.settingsFiles disk)) = .ok settings) (h : r.program disk = .error cause) :
    (run r disk).result = (some cause, "") := by
  rw [run, r.file?_configSource, settled]
  simp only [h]
  rfl

theorem result_of_program {settings : ReportOptions} {name source : String}
    (settled : readOptions (r.choose (r.settingsFiles disk)) = .ok settings)
    (chosen : r.program disk = .ok (name, source)) :
    (run r disk).result = (runProgram name source (r.reportOptions settings) []).result := by
  rw [run, r.file?_configSource, settled]
  simp only [chosen]
  exact result_runProgram ..

/-- A run depends on the file of its settings and on its script. -/
theorem result_congr (files : r.choose (r.settingsFiles other) = r.choose (r.settingsFiles disk))
    (programs : r.program other = r.program disk) : (run r other).result = (run r disk).result := by
  cases settled : readOptions (r.choose (r.settingsFiles disk)) with
  | error cause => rw [result_of_settings_error settled, result_of_settings_error (files ▸ settled)]
  | ok settings =>
    cases chosen : r.program disk with
    | error cause =>
      rw [result_of_program_error settled chosen, result_of_program_error (files ▸ settled) (programs ▸ chosen)]
    | ok program => rw [result_of_program settled chosen, result_of_program (files ▸ settled) (programs ▸ chosen)]

end Result

section Parts

structure ReportParts where
  heading : String
  tokens : String
  symbols : String
  closing : String

def wholeLines (lines : List String) : String := String.join (lines.map fun line => line ++ "\n")

def reportParts (name : String) (a : Analysis) : ReportParts where
  heading := wholeLines [name]
  tokens := wholeLines ("" :: tokenTable a.tokens)
  symbols := wholeLines ("" :: symbolTable a.symbols)
  closing := wholeLines ["", summary a.diagnostics]

def ReportParts.text (parts : ReportParts) (options : ReportOptions) : String :=
  parts.heading ++ (if options.tokens then parts.tokens else "") ++ (if options.symbols then parts.symbols else "") ++
    parts.closing

theorem wholeLines_append (lines more : List String) :
    wholeLines (lines ++ more) = wholeLines lines ++ wholeLines more := by
  rw [wholeLines, List.map_append, String.join_append]
  rfl

theorem report_eq_text (name : String) (a : Analysis) (options : ReportOptions) :
    report name a options = (reportParts name a).text options := by
  have heading : ∀ lines, name :: lines = [name] ++ lines := fun _ => rfl
  have choice : ∀ (shown : Bool) (lines : List String),
      wholeLines (if shown then lines else []) = if shown then wholeLines lines else "" := by
    intro shown lines
    cases shown <;> rfl
  rw [report, reportLines, heading]
  change wholeLines _ = _
  rw [wholeLines_append, wholeLines_append, wholeLines_append, choice, choice]
  rfl

end Parts

section Tree

def pathPlaces (path : String) : List Place :=
  (pathSteps path).scanl Place.step (if path.toList.head? = some '/' then .outside else .inside [])

theorem FileTree.follow_congr {tree other : FileTree} (names : List String) (place : Place)
    (h : ∀ p ∈ names.scanl Place.step place, other.found p = tree.found p) :
    other.follow place names = tree.follow place names := by
  induction names generalizing place with
  | nil => exact h place (by simp)
  | cons name names ih =>
    rw [List.scanl_cons] at h
    obtain ⟨here, behind⟩ := List.forall_mem_cons.mp h
    unfold follow
    rw [here, ih _ behind]

theorem FileTree.look_congr {tree other : FileTree} {path : String}
    (h : ∀ p ∈ pathPlaces path, other.found p = tree.found p) : other.look path = tree.look path := by
  unfold look
  split
  · rfl
  · exact follow_congr _ _ h

/-- Two trees that differ only in places that lead neither to the settings nor to the script. -/
theorem result_of_trees {r : Request} {tree other : FileTree} {system system' : Option (String × Found)}
    (settings : ∀ p ∈ pathPlaces (r.config.getD localConfigPath), other.found p = tree.found p)
    (script : ∀ path, r.input = some path → ∀ p ∈ pathPlaces path, other.found p = tree.found p)
    (lower : r.config.isSome = true ∨ (tree.look localConfigPath).isPresent = true ∨ system' = system) :
    (run r ⟨other.look, system'⟩).result = (run r ⟨tree.look, system⟩).result := by
  refine result_congr ?_ (Request.program_congr fun path input => FileTree.look_congr (script path input))
  have same := FileTree.look_congr settings
  unfold Request.choose Request.settingsFiles
  cases config : r.config with
  | some path =>
    rw [config, Option.getD_some] at same
    simp [same]
  | none =>
    rw [config, Option.getD_none] at same
    rcases lower with asked | present | rfl
    · rw [config] at asked
      cases asked
    · simp [same, present]
    · simp [same]

end Tree

section Switches
variable (r : Request) (disk : Disk)

theorem result_of_switches :
    (∃ cause, ∀ noTokens noSymbols, (run { r with noTokens, noSymbols } disk).result = (some cause, "")) ∨
      ∃ settings name source failure, readOptions (r.choose (r.settingsFiles disk)) = .ok settings ∧
        r.program disk = .ok (name, source) ∧
        ∀ noTokens noSymbols, (run { r with noTokens, noSymbols } disk).result =
          (failure, (reportParts name (analyze source)).text
            ⟨settings.tokens && !noTokens, settings.symbols && !noSymbols⟩) := by
  cases settled : readOptions (r.choose (r.settingsFiles disk)) with
  | error cause => exact .inl ⟨cause, fun _ _ => result_of_settings_error settled⟩
  | ok settings =>
    cases chosen : r.program disk with
    | error cause => exact .inl ⟨cause, fun _ _ => result_of_program_error settled chosen⟩
    | ok program =>
      refine .inr ⟨settings, program.1, program.2, (runProgram program.1 program.2 settings []).failure, rfl, rfl, ?_⟩
      intro noTokens noSymbols
      rw [result_of_program (r := { r with noTokens, noSymbols }) settled chosen, ← report_eq_text]
      rw [runProgram, runProgram]
      cases (analyze program.2).isClean <;> rfl

end Switches

/-- At most one file gives the settings: the one that was asked for, else the first that is there. If it is missing,
cannot be read or is malformed the run fails and no other file counts in its place. A run depends on that file and on
its script only, so files of lower rank may come, go and change, and so may anything off the paths to both. The report
is its heading, the tables that the settings and the switches allow, and its closing line; switches change nothing
else. -/
theorem run_obeys_first_settings (r : Request) (disk : Disk) :
    (r.configSource disk).file? disk = r.choose (r.settingsFiles disk) ∧
      (∀ path found, r.choose (r.settingsFiles disk) = some (path, found) →
        (found.isPresent = false → (run r disk).result = (some (.config (.missing path)), "")) ∧
          (∀ cause, found.isPresent = true → found.read = .error cause →
            (run r disk).result = (some (.unreadable cause), "")) ∧
          ∀ text, found = .text text → ReportOptions.ofToml? text = none →
            (run r disk).result = (some (.config .malformed), "")) ∧
      (∀ other, r.choose (r.settingsFiles other) = r.choose (r.settingsFiles disk) →
        (∀ path, r.input = some path → other.look path = disk.look path) →
        (run r other).result = (run r disk).result) ∧
      (∀ other higher chosen lower lower', r.settingsFiles disk = higher ++ chosen :: lower →
        r.choose (r.settingsFiles disk) = some chosen → r.settingsFiles other = higher ++ chosen :: lower' →
        (∀ path, r.input = some path → other.look path = disk.look path) →
        (run r other).result = (run r disk).result) ∧
      (∀ (tree other : FileTree) (system system' : Option (String × Found)),
        (∀ p ∈ pathPlaces (r.config.getD localConfigPath), other.found p = tree.found p) →
        (∀ path, r.input = some path → ∀ p ∈ pathPlaces path, other.found p = tree.found p) →
        r.config.isSome = true ∨ (tree.look localConfigPath).isPresent = true ∨ system' = system →
        (run r ⟨other.look, system'⟩).result = (run r ⟨tree.look, system⟩).result) ∧
      ((∃ cause, ∀ noTokens noSymbols, (run { r with noTokens, noSymbols } disk).result = (some cause, "")) ∨
        ∃ settings name source failure, readOptions (r.choose (r.settingsFiles disk)) = .ok settings ∧
          r.program disk = .ok (name, source) ∧
          ∀ noTokens noSymbols, (run { r with noTokens, noSymbols } disk).result =
            (failure, (reportParts name (analyze source)).text
              ⟨settings.tokens && !noTokens, settings.symbols && !noSymbols⟩)) := by
  refine ⟨r.file?_configSource disk, fun path found choice => ⟨?missing, ?unreadable, ?malformed⟩,
    fun other choice script => result_congr choice (Request.program_congr script), ?lower,
    fun _ _ _ _ => result_of_trees, result_of_switches r disk⟩
  case missing =>
    intro absent
    refine result_of_settings_error ?_
    rw [choice, readOptions, absent]
    rfl
  case unreadable =>
    intro cause present unread
    refine result_of_settings_error ?_
    simp [choice, readOptions, present, unread]
  case malformed =>
    rintro text rfl malformed
    refine result_of_settings_error ?_
    simp [choice, readOptions, Found.isPresent, Found.read, malformed]
  case lower =>
    intro other higher chosen lower lower' files choice others script
    refine result_congr ?_ (Request.program_congr script)
    rw [choice, others]
    rw [files] at choice
    exact Request.choose_append choice lower'

def crowdedDisk : Disk where
  look path :=
    if path = "a.rob" then .text "Robot r"
    else if path = localConfigPath then .text "[report]\ntokens = false"
    else if path = "broken.toml" then .text "[report"
    else if path = "robolang" then .directory
    else .missing
  system := some ("/etc/config.toml", .notText)

def Request.forSettings (config : Option String) : Request := ⟨some "a.rob", none, config, false, false, "warn"⟩

def directoryTree : FileTree := ⟨[(["c"], .directory), (["robolang"], .directory)]⟩

def settledTree : FileTree := ⟨(["robolang", "config.toml"], .directory) :: directoryTree.nodes⟩

theorem pathPlaces_single : pathPlaces "c" = [.inside [], .inside ["c"]] := by
  have single : "c".splitOn "/" = ["c"] := by
    rw [String.splitOn, if_neg (by decide), String.splitOnAux, if_neg (by decide +kernel), if_neg (by decide +kernel),
      String.splitOnAux, if_pos (by decide +kernel)]
    decide +kernel
  rw [pathPlaces, pathSteps, single]
  decide +kernel

theorem run_obeys_first_settings_crowded :
    (run (.forSettings (some "none.toml")) crowdedDisk).result = (some (.config (.missing "none.toml")), "") ∧
      (run (.forSettings (some "robolang")) crowdedDisk).result = (some (.unreadable .directory), "") ∧
      (run (.forSettings (some "broken.toml")) crowdedDisk).result = (some (.config .malformed), "") ∧
      (run (.forSettings none) ⟨fun path => if path = "broken.toml" then .missing else crowdedDisk.look path,
        crowdedDisk.system⟩).result = (run (.forSettings none) crowdedDisk).result ∧
      (run (.forSettings none) { crowdedDisk with system := none }).result =
        (run (.forSettings none) crowdedDisk).result ∧
      (run { Request.forSettings (some "c") with input := none } ⟨settledTree.look, none⟩).result =
        (run { Request.forSettings (some "c") with input := none } ⟨directoryTree.look, none⟩).result := by
  obtain ⟨-, spoilt, -⟩ := run_obeys_first_settings (.forSettings (some "none.toml")) crowdedDisk
  obtain ⟨missing, -⟩ := spoilt "none.toml" .missing (by decide +kernel)
  obtain ⟨-, spoilt, -⟩ := run_obeys_first_settings (.forSettings (some "robolang")) crowdedDisk
  obtain ⟨-, unreadable, -⟩ := spoilt "robolang" .directory (by decide +kernel)
  obtain ⟨-, spoilt, -⟩ := run_obeys_first_settings (.forSettings (some "broken.toml")) crowdedDisk
  obtain ⟨-, -, malformed⟩ := spoilt "broken.toml" (.text "[report") (by decide +kernel)
  obtain ⟨-, -, depends, lower, -⟩ := run_obeys_first_settings (.forSettings none) crowdedDisk
  obtain ⟨-, -, -, -, trees, -⟩ :=
    run_obeys_first_settings { Request.forSettings (some "c") with input := none } crowdedDisk
  have script : ∀ path, (Request.forSettings none).input = some path → path = "a.rob" :=
    fun _ input => (Option.some.inj input).symm
  refine ⟨missing rfl, unreadable _ rfl rfl, malformed _ rfl (by decide +kernel), depends _ (by decide +kernel) ?_,
    lower _ [] (localConfigPath, .text "[report]\ntokens = false") crowdedDisk.system.toList [] rfl rfl rfl
      fun _ _ => rfl,
    trees _ _ none none ?_ nofun (.inl rfl)⟩
  · intro path input
    rw [script path input]
    rfl
  · change ∀ p ∈ pathPlaces "c", _
    rw [pathPlaces_single]
    decide +kernel

end ArmScript
