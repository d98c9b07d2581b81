import PostMarkup.Proofs.Atomicity
import PostMarkup.Proofs.Loading

/-! The one configuration file that a run goes by. Which file that is depends on which files are
there and not on what is in them, so a file that cannot be used ends the run before its input is
read, and no other file has a part in it. -/

namespace PostMarkup

/-! ### Runs -/

section Run

variable {reader : Config.Reader} {disk disk' : Disk} {userConfig : Text} {stdin : ByteArray}
  {asked : Invocation}

theorem readInput_congr
    (hinput : asked.input ≠ stdinName → disk'.read asked.input = disk.read asked.input) :
    readInput disk' stdin asked.input = readInput disk stdin asked.input := by
  rw [readInput, readInput]
  split
  next => rfl
  next hname => rw [hinput hname]

theorem runCompile_congr {destination : Option Text}
    (houtput : ∀ path ∈ destination, disk'.refusal? path = disk.refusal? path) (config : Config)
    (post : Text) :
    runCompile disk' config destination post = runCompile disk config destination post := by
  rw [runCompile, runCompile]
  cases destination with
  | none => rfl
  | some path => simp only [houtput path rfl]

/-- A run asks a disk for no more than its configuration, its input, and whether its output can be
written. -/
theorem run_congr (hload : Config.load reader disk' userConfig asked.config =
      Config.load reader disk userConfig asked.config)
    (hinput : asked.input ≠ stdinName → disk'.read asked.input = disk.read asked.input)
    (houtput : ∀ path, asked.command = .compile (some path) →
      disk'.refusal? path = disk.refusal? path) :
    run reader disk' userConfig stdin asked = run reader disk userConfig stdin asked ∧
      runEvents reader disk' userConfig stdin asked =
        runEvents reader disk userConfig stdin asked := by
  have hprepare : prepare reader disk' userConfig stdin asked =
      prepare reader disk userConfig stdin asked := by
    rw [prepare, prepare, hload, readInput_congr hinput]
  refine ⟨?_, by rw [runEvents, runEvents, hprepare]⟩
  rw [run, run, hprepare]
  cases prepare reader disk userConfig stdin asked with
  | error failure => rfl
  | ok prepared =>
    obtain ⟨config, content⟩ := prepared
    cases hcommand : asked.command with
    | analyze json => rfl
    | compile destination =>
      refine runCompile_congr (fun path hpath => houtput path ?_) config content
      rw [hcommand, Option.mem_def.1 hpath]

/-- Without a configuration there is no run, whatever its input. -/
theorem run_of_load_eq_error {failure : Failure}
    (h : Config.load reader disk userConfig asked.config = .error failure) :
    run reader disk userConfig stdin asked = { result := .error failure } := by
  have hprepare : prepare reader disk userConfig stdin asked = .error failure := by
    rw [prepare, h]
    rfl
  rw [run, hprepare]

end Run

/-- A run goes by one configuration file at most. If the file in use is the same on two disks and
has the same content, and the disks agree in the input and in whether the output can be written, the
run is the same on both, whatever else there is on them. A file in use that is missing, which only
one that was asked for can be, that cannot be read, or that is no configuration without limits of
zero, makes the run fail for just this reason, whatever its input: neither another file nor the
usual configuration takes its place. -/
theorem run_confined (reader : Config.Reader) (disk : Disk) (userConfig : Text) (stdin : ByteArray)
    (asked : Invocation) :
    let selected := Config.select disk userConfig asked.config
    let loaded := Config.load reader disk userConfig asked.config
    (∀ disk', Config.select disk' userConfig asked.config = selected →
        (∀ path ∈ selected, disk.AgreesOn disk' path) →
        (asked.input ≠ stdinName → disk'.read asked.input = disk.read asked.input) →
        (∀ path, asked.command = .compile (some path) →
          disk'.refusal? path = disk.refusal? path) →
        run reader disk' userConfig stdin asked = run reader disk userConfig stdin asked ∧
          runEvents reader disk' userConfig stdin asked =
            runEvents reader disk userConfig stdin asked) ∧
      (∀ path, selected = some path →
        (disk.isThere path = false → asked.config = some path) ∧
        (∀ failure, Config.Rejects reader disk path failure → ∀ stdin' command input,
          run reader disk userConfig stdin' { asked with command := command, input := input } =
            { result := .error failure }) ∧
        ((∃ failure, Config.Rejects reader disk path failure) ∨
          ∃ config, Config.Describes reader disk path config ∧ loaded = .ok config)) ∧
      (selected = none → loaded = .ok {}) := by
  intro selected loaded
  refine ⟨fun disk' hselect hagree hinput houtput => ?_, fun path hpath => ⟨?_, ?_, ?_⟩, ?_⟩
  · exact run_congr (Config.load_congr hselect hagree) hinput houtput
  · exact Config.eq_some_of_select hpath
  · intro failure hrejects stdin' command input
    have hload : loaded = .error failure := Config.load_eq_error_iff.2 ⟨path, hpath, hrejects⟩
    exact run_of_load_eq_error hload
  · cases hload : loaded with
    | error failure =>
      obtain ⟨other, hother, hrejects⟩ := Config.load_eq_error_iff.1 hload
      obtain rfl : other = path := Option.some.inj (hother.symm.trans hpath)
      exact .inl ⟨failure, hrejects⟩
    | ok config =>
      rcases Config.load_eq_ok_iff.1 hload with ⟨hnone, -⟩ | ⟨other, hother, hdescribes⟩
      · cases hnone.symm.trans hpath
      · obtain rfl : other = path := Option.some.inj (hother.symm.trans hpath)
        exact .inr ⟨config, hdescribes, rfl⟩
  · intro hnone
    exact Config.load_eq_ok_iff.2 (.inl ⟨hnone, rfl⟩)

/-- The path of the user's own configuration file. -/
def ownConfig : Text := "own.toml".toList

def roomy : Text := "[limits]\ntitle = 90".toList

/-- A configuration that leaves no characters for evidence. -/
def barren : Text := "[limits]\nevidence = 0".toList

/-- A disk with the one configuration where the program runs, and nothing else. -/
def tidyDisk : Disk where
  isThere path := path == localConfig
  read path := if path = localConfig then .ok (encodeUtf8 roomy) else .error .notFound
  refusal? _ := none

/-- The same disk with the other configuration as the user's own. -/
def clutteredDisk : Disk where
  isThere path := path == localConfig || path == ownConfig
  read path :=
    if path = localConfig then .ok (encodeUtf8 roomy)
    else if path = ownConfig then .ok (encodeUtf8 barren)
    else .error .notFound
  refusal? _ := none

/-- To print what the standard input is compiled to. -/
def piped : Invocation where
  command := .compile none
  input := stdinName
  config := none
  logLevel := "warn".toList

theorem rejects_barren :
    Config.Rejects Config.ofToml clutteredDisk ownConfig (.config (.zeroLimit .evidence)) := by
  have hconfig : Config.ofToml barren = .ok { limits := { evidence := 0 } } := by decide +kernel
  exact .faulty rfl rfl (.zeroLimit (decodeUtf8_encodeUtf8 barren) hconfig rfl
    (show LimitName.all = [.title, .claim] ++ .evidence :: [.insight, .context, .total] from rfl)
    (by decide))

theorem run_confined_cluttered :
    Config.select clutteredDisk ownConfig none = some localConfig ∧
      Config.select tidyDisk ownConfig none = some localConfig ∧
      run Config.ofToml clutteredDisk ownConfig (encodeUtf8 draft) piped =
        run Config.ofToml tidyDisk ownConfig (encodeUtf8 draft) piped ∧
      Config.Rejects Config.ofToml clutteredDisk ownConfig (.config (.zeroLimit .evidence)) ∧
      run Config.ofToml clutteredDisk ownConfig .empty
          { piped with config := some ownConfig, input := "absent".toList } =
        { result := .error (.config (.zeroLimit .evidence)) } := by
  have hcluttered : Config.select clutteredDisk ownConfig none = some localConfig := rfl
  have htidy : Config.select tidyDisk ownConfig none = some localConfig := rfl
  obtain ⟨hconfined, -, -⟩ := run_confined Config.ofToml tidyDisk ownConfig (encodeUtf8 draft) piped
  obtain ⟨-, hselected, -⟩ :=
    run_confined Config.ofToml clutteredDisk ownConfig .empty
      { piped with config := some ownConfig }
  have hsame : run Config.ofToml clutteredDisk ownConfig (encodeUtf8 draft) piped =
      run Config.ofToml tidyDisk ownConfig (encodeUtf8 draft) piped := by
    refine (hconfined clutteredDisk (hcluttered.trans htidy.symm) ?_ ?_ ?_).1
    · intro path hpath
      obtain rfl : localConfig = path := Option.some.inj (htidy.symm.trans hpath)
      exact ⟨rfl, rfl⟩
    · intro hinput
      exact absurd rfl hinput
    · intro path hcommand
      rfl
  obtain ⟨-, hfails, -⟩ := hselected ownConfig rfl
  exact ⟨hcluttered, htidy, hsame, rejects_barren, hfails _ rejects_barren _ _ _⟩

end PostMarkup
