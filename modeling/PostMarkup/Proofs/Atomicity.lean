import PostMarkup.Config.Toml
import PostMarkup.Proofs.Files
import PostMarkup.Proofs.Json
import PostMarkup.Run

/-! What a run of the program comes to. A run that fails leaves no trace: it prints nothing, and
every file is as it was. A run that succeeds changes no file but the one that its output goes to. -/

namespace PostMarkup

/-- The disk lets no file be written that the tree has no place for. It may refuse more. -/
def Disk.WritesTo (disk : Disk) (files : Files) : Prop :=
  ∀ path, disk.refusal? path = none → ∃ place, files.target path = .ok place

theorem Files.writesTo_disk (files : Files) : files.disk.WritesTo files := by
  intro path h
  simp only [disk] at h
  split at h
  next place hplace => exact ⟨place, hplace⟩
  next => cases h

theorem Disk.WritesTo.exists_write {disk : Disk} {files : Files} (hdisk : disk.WritesTo files)
    {path : Text} (h : disk.refusal? path = none) (bytes : ByteArray) :
    ∃ after, files.write path bytes = .ok after := by
  obtain ⟨place, hplace⟩ := hdisk path h
  exact ⟨_, Files.write_eq_ok_iff.2 ⟨place, hplace, rfl⟩⟩

/-! ### Files -/

namespace Outcome

variable {outcome : Outcome} {before : Files}

theorem files_of_written_eq_none (h : outcome.written = none) : outcome.files before = before := by
  rw [files, h]

theorem files_of_write {path output : Text} {after : Files}
    (h : outcome.written = some (path, output))
    (hwrite : before.write path (encodeUtf8 output) = .ok after) :
    outcome.files before = after := by
  rw [files, h]
  simp only [hwrite]

/-- An outcome changes the tree in the place of its written file only, whatever the disk lets be
written. -/
theorem target_of_lookup_files_ne {place : List Text}
    (h : (outcome.files before).lookup place ≠ before.lookup place) :
    ∃ path output, outcome.written = some (path, output) ∧ before.target path = .ok place := by
  cases hwritten : outcome.written with
  | none =>
    rw [files_of_written_eq_none hwritten] at h
    exact absurd rfl h
  | some file =>
    obtain ⟨path, output⟩ := file
    refine ⟨path, output, rfl, ?_⟩
    by_contra htarget
    cases hwrite : before.write path (encodeUtf8 output) with
    | error error => simp [files, hwritten, hwrite] at h
    | ok after =>
      rw [files_of_write hwritten hwrite] at h
      exact h (Files.lookup_write_ne hwrite htarget)

theorem exitCode_eq_one_iff {success : Bool} (h : outcome.result = .ok success) :
    outcome.exitCode = 1 ↔ success = false := by
  rw [exitCode, h]
  cases success <;> simp

end Outcome

/-! ### Ways to end -/

/-- The ways in which a run ends that has compiled a post. -/
inductive CompileEnds (disk : Disk) (c : Compilation) (post : Text) : Option Text → Outcome → Prop
  | failed {destination : Option Text} (hfail : c.output? = none) :
      CompileEnds disk c post destination { result := .error (.compile c.errors post) }
  | printed {output : Text} (hdone : c.output? = some output) :
      CompileEnds disk c post none { result := .ok true, stdout := output ++ ['\n'] }
  | refused {output path : Text} {error : IoError} (hdone : c.output? = some output)
      (hrefused : disk.refusal? path = some error) :
      CompileEnds disk c post (some path) { result := .error (.io error) }
  | written {output path : Text} (hdone : c.output? = some output)
      (hopen : disk.refusal? path = none) :
      CompileEnds disk c post (some path) { result := .ok true, written := some (path, output) }

theorem compileEnds_runCompile (disk : Disk) (config : Config) (destination : Option Text)
    (post : Text) :
    CompileEnds disk (compile config.limits post) post destination
      (runCompile disk config destination post) := by
  rw [runCompile, Compilation.result]
  cases hdone : (compile config.limits post).output? with
  | none => exact .failed hdone
  | some output =>
    cases destination with
    | none => exact .printed hdone
    | some path =>
      cases hpath : disk.refusal? path with
      | some error => simpa only [hpath] using CompileEnds.refused hdone hpath
      | none => simpa only [hpath] using CompileEnds.written hdone hpath

section Run

variable {reader : Config.Reader} {disk : Disk} {userConfig : Text} {stdin : ByteArray}
  {asked : Invocation}

theorem prepare_eq_ok_iff {config : Config} {content : Text} :
    prepare reader disk userConfig stdin asked = .ok (config, content) ↔
      Config.load reader disk userConfig asked.config = .ok config ∧
        readInput disk stdin asked.input = .ok content := by
  simp only [prepare, bind_eq_ok_iff, pure, Except.pure, Except.ok.injEq, Prod.mk.injEq]
  constructor
  · rintro ⟨_, hload, _, hread, rfl, rfl⟩
    exact ⟨hload, hread⟩
  · rintro ⟨hload, hread⟩
    exact ⟨config, hload, content, hread, rfl, rfl⟩

/-- The ways in which a run ends. -/
inductive RunEnds (reader : Config.Reader) (disk : Disk) (userConfig : Text) (stdin : ByteArray)
    (asked : Invocation) : Outcome → Prop
  | unprepared {failure : Failure}
      (hprepare : prepare reader disk userConfig stdin asked = .error failure) :
      RunEnds reader disk userConfig stdin asked { result := .error failure }
  | compiled {config : Config} {content : Text} {destination : Option Text} {outcome : Outcome}
      (hprepare : prepare reader disk userConfig stdin asked = .ok (config, content))
      (hcommand : asked.command = .compile destination)
      (hends : CompileEnds disk (compile config.limits content) content destination outcome) :
      RunEnds reader disk userConfig stdin asked outcome
  | analyzed {config : Config} {content : Text} {json : Bool}
      (hprepare : prepare reader disk userConfig stdin asked = .ok (config, content))
      (hcommand : asked.command = .analyze json) :
      RunEnds reader disk userConfig stdin asked (runAnalyze config json content)

theorem runEnds_run (reader : Config.Reader) (disk : Disk) (userConfig : Text)
    (stdin : ByteArray) (asked : Invocation) :
    RunEnds reader disk userConfig stdin asked (run reader disk userConfig stdin asked) := by
  rw [run]
  split
  next failure hprepare => exact .unprepared hprepare
  next config content hprepare =>
    split
    next destination hcommand =>
      exact .compiled hprepare hcommand (compileEnds_runCompile disk config destination content)
    next json hcommand => exact .analyzed hprepare hcommand

namespace RunEnds

variable {outcome : Outcome}

/-- A run that fails leaves no trace. -/
theorem eq_of_error (h : RunEnds reader disk userConfig stdin asked outcome) {failure : Failure}
    (hfail : outcome.result = .error failure) : outcome = { result := .error failure } := by
  cases h with
  | unprepared =>
    cases hfail
    rfl
  | compiled _ _ hends =>
    cases hends with
    | failed | refused =>
      cases hfail
      rfl
    | printed | written => cases hfail
  | analyzed => cases hfail

/-- A run writes no file unless it compiles, and then only where its output is to go. -/
theorem command_eq_of_written (h : RunEnds reader disk userConfig stdin asked outcome)
    {path output : Text} (hwritten : outcome.written = some (path, output)) :
    asked.command = .compile (some path) := by
  cases h with
  | unprepared => cases hwritten
  | compiled _ hcommand hends =>
    cases hends with
    | failed | printed | refused => cases hwritten
    | written =>
      cases hwritten
      exact hcommand
  | analyzed => cases hwritten

end RunEnds

end Run

/-! ### Channels -/

/-- A compilation's output is printed on a line of its own, or is all that the file at its
destination holds. Without an output the errors are the failure of the run. -/
structure Outcome.Delivers (outcome : Outcome) (disk : Disk) (before : Files) (c : Compilation)
    (post : Text) (destination : Option Text) : Prop where
  succeeds_iff : outcome.result = .ok true ↔
    c.success = true ∧ ∀ path ∈ destination, disk.refusal? path = none
  failed : c.success = false → outcome.result = .error (.compile c.errors post)
  refused : c.success = true → ∀ path ∈ destination, ∀ error, disk.refusal? path = some error →
    outcome.result = .error (.io error)
  printed : ∀ output, c.output? = some output → destination = none →
    outcome.stdout = output ++ ['\n'] ∧ outcome.files before = before
  written : ∀ output path, c.output? = some output → destination = some path →
    disk.refusal? path = none →
    outcome.stdout = [] ∧ (outcome.files before).read path = .ok (encodeUtf8 output)

theorem CompileEnds.delivers {disk : Disk} {before : Files} (hdisk : disk.WritesTo before)
    {c : Compilation} {post : Text} {destination : Option Text} {outcome : Outcome}
    (h : CompileEnds disk c post destination outcome) :
    outcome.Delivers disk before c post destination := by
  cases h with
  | failed hfail => constructor <;> simp [Compilation.success, hfail]
  | printed hdone => constructor <;> simp [Compilation.success, hdone, Outcome.files]
  | refused hdone hrefused => constructor <;> simp [Compilation.success, hdone, hrefused]
  | @written output path hdone hopen =>
    obtain ⟨after, hwrite⟩ := hdisk.exists_write hopen (encodeUtf8 output)
    have hfiles : Outcome.files { result := .ok true, written := some (path, output) } before =
        after := Outcome.files_of_write rfl hwrite
    constructor <;>
      simp [Compilation.success, hdone, hopen, hfiles, Files.read_write hwrite]

/-- An analysis is printed in the form asked for, and what is printed tells the analysis: that of no
text that has another is printed so. The exit code is its verdict. -/
structure Outcome.Reports (outcome : Outcome) (before : Files) (a : Analysis) (json : Bool) :
    Prop where
  result_eq : outcome.result = .ok a.valid
  exitCode_iff : outcome.exitCode = 1 ↔ a.valid = false
  stdout_eq : outcome.stdout = a.printed json
  stdout_tells : ∀ thresholds text,
    (analyze thresholds .standard text).printed json = outcome.stdout →
    analyze thresholds .standard text = a
  files_eq : outcome.files before = before

theorem reports_runAnalyze (before : Files) (config : Config) (json : Bool) (content : Text) :
    (runAnalyze config json content).Reports before
      (analyze config.thresholds .standard content) json where
  result_eq := rfl
  exitCode_iff := Outcome.exitCode_eq_one_iff rfl
  stdout_eq := rfl
  stdout_tells _ _ := Analysis.analyze_eq_of_printed_eq
  files_eq := rfl

/-! ### Inputs -/

theorem readInput_of_read {disk : Disk} {path : Text} {bytes : ByteArray} (hpath : path ≠ stdinName)
    (hread : disk.read path = .ok bytes) (stdin : ByteArray) :
    readInput disk stdin path = (decodeUtf8 bytes).mapError .io := by
  rw [readInput, if_neg hpath, hread]
  rfl

theorem readInput_stdin (disk : Disk) (bytes : ByteArray) :
    readInput disk bytes stdinName = (decodeUtf8 bytes).mapError .io :=
  rfl

/-- The name of the input has no part in a run but to be read. -/
theorem run_congr_input {reader : Config.Reader} {disk : Disk} {userConfig input input' : Text}
    {stdin stdin' : ByteArray} {asked : Invocation}
    (h : readInput disk stdin input = readInput disk stdin' input') :
    run reader disk userConfig stdin { asked with input := input } =
      run reader disk userConfig stdin' { asked with input := input' } := by
  simp only [run, prepare, h]

theorem result_run_of_notUtf8 {reader : Config.Reader} {disk : Disk} {userConfig input : Text}
    {stdin bytes : ByteArray} {asked : Invocation} {config : Config}
    (hload : Config.load reader disk userConfig asked.config = .ok config)
    (hread : readInput disk stdin input = (decodeUtf8 bytes).mapError .io)
    (hbytes : String.fromUTF8? bytes = none) :
    (run reader disk userConfig stdin { asked with input := input }).result =
      .error (.io .notUtf8) := by
  have hprepare : prepare reader disk userConfig stdin { asked with input := input } =
      .error (.io .notUtf8) := by
    rw [prepare, hload, hread, decodeUtf8_eq_error_iff.2 ⟨hbytes, rfl⟩]
    rfl
  rw [run, hprepare]

/-- A run of the program does all that it was asked for or nothing. If it fails, it has printed
nothing, and all files are as they were; if not, no file has changed but the one that a compilation
was to be written to. A run that compiles succeeds exactly if the compilation does and its output
can be written, and delivers it; otherwise the failure carries the errors of the compilation. A run
that analyzes prints one and the same analysis in either form, and its exit code is the verdict. It
is all the same whether the bytes of the input come from a file or from the standard input, also
where they are no text. -/
theorem run_allOrNothing {disk : Disk} {before : Files} (hdisk : disk.WritesTo before)
    (reader : Config.Reader) (userConfig : Text) (stdin : ByteArray) (asked : Invocation) :
    let outcome := run reader disk userConfig stdin asked
    (∀ failure, outcome.result = .error failure →
        outcome.stdout = [] ∧ outcome.files before = before) ∧
      (∀ place, (outcome.files before).lookup place ≠ before.lookup place →
        ∃ path, asked.command = .compile (some path) ∧ before.target path = .ok place) ∧
      (∀ config content, Config.load reader disk userConfig asked.config = .ok config →
        readInput disk stdin asked.input = .ok content →
        let perform := fun command =>
          run reader disk userConfig stdin { asked with command := command }
        (∀ destination, (perform (.compile destination)).Delivers disk before
          (compile config.limits content) content destination) ∧
        ∀ json, (perform (.analyze json)).Reports before
          (analyze config.thresholds .standard content) json) ∧
      ∀ path bytes, path ≠ stdinName → disk.read path = .ok bytes →
        let stored := run reader disk userConfig stdin { asked with input := path }
        let typed := run reader disk userConfig bytes { asked with input := stdinName }
        stored = typed ∧
          ∀ config, Config.load reader disk userConfig asked.config = .ok config →
            String.fromUTF8? bytes = none → stored.result = .error (.io .notUtf8) := by
  intro outcome
  have hends : RunEnds reader disk userConfig stdin asked outcome :=
    runEnds_run reader disk userConfig stdin asked
  refine ⟨fun failure hfail => ?_, fun place hplace => ?_, fun config content hload hread => ?_,
    fun path bytes hpath hread => ?_⟩
  · rw [hends.eq_of_error hfail]
    exact ⟨rfl, rfl⟩
  · obtain ⟨path, output, hwritten, htarget⟩ := Outcome.target_of_lookup_files_ne hplace
    exact ⟨path, hends.command_eq_of_written hwritten, htarget⟩
  · intro perform
    have hprepare (command : Command) :
        prepare reader disk userConfig stdin { asked with command := command } =
          .ok (config, content) :=
      prepare_eq_ok_iff.2 ⟨hload, hread⟩
    refine ⟨fun destination => ?_, fun json => ?_⟩
    · have hperform : perform (.compile destination) =
          runCompile disk config destination content := by
        simp only [perform, run, hprepare]
      rw [hperform]
      exact (compileEnds_runCompile disk config destination content).delivers hdisk
    · have hperform : perform (.analyze json) = runAnalyze config json content := by
        simp only [perform, run, hprepare]
      rw [hperform]
      exact reports_runAnalyze before config json content
  · have hstored := readInput_of_read hpath hread stdin
    have hsame := hstored.trans (readInput_stdin disk bytes).symm
    exact ⟨run_congr_input hsame, fun config hload => result_run_of_notUtf8 hload hstored⟩

/-- A post. -/
def draft : Text := "# \"T\"\n! \"C\"\n+ 1 | \"x\"\n> \"I\"\n@ \"S\" | a.b".toList

/-- What the post is rendered as. -/
def fairCopy : Text := "T.\n\nC.\n\nResults:\n- 1 x\n\nI.\n\nSource: S\na.b".toList

/-- A tree with the post in it, and with a file that is no text. -/
def desk : Files where
  entries :=
    [(["post".toList], .file (encodeUtf8 draft)), (["noise".toList], .file ⟨#[0xFF]⟩)]
  home := []

/-- To write the post's rendered form over the post. -/
def inPlace : Invocation where
  command := .compile (some "post".toList)
  input := "post".toList
  config := none
  logLevel := "warn".toList

theorem readInput_desk : readInput desk.disk .empty "post".toList = .ok draft := by
  have hread : desk.disk.read "post".toList = .ok (encodeUtf8 draft) := rfl
  rw [readInput_of_read (by decide) hread, decodeUtf8_encodeUtf8]
  rfl

theorem run_allOrNothing_inPlace :
    let outcome := run Config.ofToml desk.disk [] .empty inPlace
    let typed := run Config.ofToml desk.disk [] ⟨#[0xFF]⟩ { inPlace with input := stdinName }
    let stored := run Config.ofToml desk.disk [] .empty { inPlace with input := "noise".toList }
    let analyzed := run Config.ofToml desk.disk [] .empty { inPlace with command := .analyze true }
    desk.disk.WritesTo desk ∧ Config.load Config.ofToml desk.disk [] none = .ok {} ∧
      readInput desk.disk .empty "post".toList = .ok draft ∧
      outcome.result = .ok true ∧ outcome.stdout = [] ∧
      (outcome.files desk).read "post".toList = .ok (encodeUtf8 fairCopy) ∧
      analyzed.exitCode = 1 ∧ analyzed.stdout = (analyze {} .standard draft).printed true ∧
      analyzed.stdout ≠ (analyze {} .standard fairCopy).printed true ∧
      analyzed.files desk = desk ∧
      desk.disk.read "noise".toList = .ok ⟨#[0xFF]⟩ ∧ String.fromUTF8? ⟨#[0xFF]⟩ = none ∧
      stored = typed ∧ typed.result = .error (.io .notUtf8) ∧ typed.stdout = [] ∧
      typed.files desk = desk := by
  intro outcome typed stored analyzed
  have hdisk : desk.disk.WritesTo desk := desk.writesTo_disk
  have hload : Config.load Config.ofToml desk.disk [] none = .ok {} := rfl
  have hopen : desk.disk.refusal? "post".toList = none := rfl
  have hdone : (compile {} draft).output? = some fairCopy := by decide +kernel
  have hsuccess : (compile {} draft).success = true := by rw [Compilation.success, hdone]; rfl
  have hread : desk.disk.read "noise".toList = .ok ⟨#[0xFF]⟩ := rfl
  have hnoise : String.fromUTF8? ⟨#[0xFF]⟩ = none := by decide +kernel
  have hvalid : (analyze {} .standard draft).valid = false := by decide +kernel
  have hother : analyze {} .standard fairCopy ≠ analyze {} .standard draft := by decide +kernel
  obtain ⟨-, -, hprepared, hinput⟩ :=
    run_allOrNothing hdisk Config.ofToml [] .empty inPlace
  obtain ⟨hcompiles, hanalyzes⟩ := hprepared {} draft hload readInput_desk
  have hdelivers := hcompiles (some "post".toList)
  have hreports := hanalyzes true
  obtain ⟨hstdout, hwritten⟩ := hdelivers.written fairCopy "post".toList hdone rfl hopen
  obtain ⟨heq, herror⟩ := hinput "noise".toList ⟨#[0xFF]⟩ (by decide) hread
  have hfail : typed.result = .error (.io .notUtf8) :=
    (congrArg Outcome.result heq).symm.trans (herror {} hload hnoise)
  obtain ⟨hnothing, -, -, -⟩ := run_allOrNothing hdisk Config.ofToml [] ⟨#[0xFF]⟩
    { inPlace with input := stdinName }
  have hok : outcome.result = .ok true := by
    refine hdelivers.succeeds_iff.2 ⟨hsuccess, ?_⟩
    rintro path ⟨⟩
    exact hopen
  exact ⟨hdisk, hload, readInput_desk, hok, hstdout, hwritten, hreports.exitCode_iff.2 hvalid,
    hreports.stdout_eq, fun h => hother (hreports.stdout_tells _ _ h.symm), hreports.files_eq,
    hread, hnoise, heq, hfail, hnothing _ hfail⟩

end PostMarkup
