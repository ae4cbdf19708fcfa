import Chip8.Proofs.Assembly
import Chip8.Proofs.Budget
import Chip8.Proofs.Logging

/-!
This file proves what the exit status of a run tells about its program file and its steps.
-/

namespace Chip8

namespace Machine

variable {machine final : Machine} {readings : List Reading} {taken : Nat} {fault? : Option Fault}

/-- The steps over all readings meet the fault at which they stop. -/
theorem StopsAfter.fault_eq_some_iff (stops : machine.StopsAfter readings taken final fault?)
    (fault : Fault) : fault? = some fault ↔ machine.steps readings = .error (.fault fault) := by
  cases met : fault? with
  | none =>
      have through := stops.steps
      rw [stops.complete.mp met, List.take_length] at through
      rw [through]
      exact iff_of_false nofun nofun
  | some other =>
      have failed := stops.fails other met
      have ended : machine.steps readings = .error (.fault other) := by
        rw [← List.take_append_drop (taken + 1) readings, steps_append, failed]
        rfl
      rw [ended]
      constructor
      · rintro ⟨⟩
        rfl
      · rintro ⟨⟩
        rfl

theorem reachable_loadProgram {key : RandomKey} {mode : Mode} {now : Reading}
    {program : List UInt8} (loaded : (create key mode now).loadProgram program = .ok machine) :
    machine.Reachable := by
  have performed : (create key mode now).perform (.load (.bytes program)) = .ok machine := loaded
  have reached := reachable_obeyAll key mode now [.load (.bytes program)]
  rw [obeyAll, List.foldl_cons, List.foldl_nil, obey_of_ok performed] at reached
  exact reached

end Machine

/-- A screen without a window runs a number of cycles at most, but a terminal may have no limit. -/
def Screen.budget? : Screen → Option Nat
  | .window _ => none
  | .terminal limit? => limit?.map Int.toNat
  | .headless count => some count.toNat

/-- The settings name a level, a seed within a word, a mode and a screen with a budget. -/
structure Config.Settled (config : Config) (threshold : LogLevel) (seed : Int) (mode : Mode)
    (budget : Nat) : Prop where
  levelled : LogLevel.ofSetting config.logLevel = .ok threshold
  seeded : config.seed = some seed
  fits : fitsLong seed
  named : config.mode = some mode.name
  screened : ∃ screen, config.screen = .ok screen ∧ screen.budget? = some budget

theorem Literal.holds_eq_false_iff {value : Literal} :
    value.holds = false ↔ value ∈ [.nothing, .text "", .number 0, .flag false, .list []] := by
  cases value <;> simp [holds]

/-- The file of this name cannot be read, or its program is too large. -/
inductive LoadFails (files : FileSystem) (rom : Literal) : (kind message : String) → Prop where
  | unread {error : FileError} (refused : files.readNamed rom = .error (.file error)) :
      LoadFails files rom error.name error.message
  | large {program : List UInt8} (contents : files.readNamed rom = .ok program)
      (exceeds : 3584 < program.length) :
      LoadFails files rom (Fault.programTooLarge program.length 3584).name
        (Fault.programTooLarge program.length 3584).message

namespace Surroundings

variable (surroundings : Surroundings)

/-- The machine is made at the first reading of the clock. -/
def machine (seed : Int) (mode : Mode) : Machine :=
  .create (.ofSeed seed) mode surroundings.clock.read.1

/-- These readings are left for the cycles. -/
def readings (budget : Nat) : List Reading := surroundings.clock.read.2.take budget

/-- The program of the file is in the memory of the machine. -/
def Loads (seed : Int) (mode : Mode) (rom : Literal) (machine : Machine) : Prop :=
  ∃ program, surroundings.files.readNamed rom = .ok program ∧
    (surroundings.machine seed mode).loadProgram program = .ok machine

/-- The log of a run that ends with its first message, if the threshold admits it. -/
def onlyRecord (threshold level : LogLevel) (message : String) : String :=
  if threshold.weight ≤ level.weight then
    Logger.timestamp (surroundings.wall.read.2.read.1.seconds - surroundings.wall.read.1.seconds) ++
      Logger.tag { threshold, colored := surroundings.coloredLog } level ++ "[chip8vm] " ++
      message ++ "\n"
  else ""

/-- The logger of a run writes to an empty log. -/
def logger (threshold : LogLevel) : Logger :=
  .create { threshold, colored := surroundings.coloredLog } surroundings.wall

theorem onlyRecord_congr {surroundings elsewhere : Surroundings}
    (colored : elsewhere.coloredLog = surroundings.coloredLog)
    (wall : elsewhere.wall = surroundings.wall) (threshold level : LogLevel) (message : String) :
    elsewhere.onlyRecord threshold level message =
      surroundings.onlyRecord threshold level message := by
  rw [onlyRecord, onlyRecord, colored, wall]

theorem written_logger (threshold level : LogLevel) (message : String) :
    ((surroundings.logger threshold).log level message).written =
      surroundings.onlyRecord threshold level message := by
  let logger := surroundings.logger threshold
  have enabled : logger.enabled level = decide (threshold.weight ≤ level.weight) := rfl
  have named : "[chip8vm] " = "[" ++ "chip8vm" ++ "] " := by decide
  unfold onlyRecord
  by_cases admitted : threshold.weight ≤ level.weight
  · have writes : logger.log level message = logger.readWall.2.write
        (Logger.timestamp (logger.readWall.1 - logger.start)) level message := by
      simp only [Logger.log, enabled, admitted, decide_true, if_true]
      rfl
    rw [if_pos admitted, writes, Logger.written_write, named]
    simp only [Logger.mark, String.append_assoc]
    exact String.empty_append
  · rw [if_neg admitted]
    simp only [Logger.log, logger, enabled, admitted]
    rfl

end Surroundings

namespace Program

variable {config : Config} {surroundings : Surroundings} {threshold : LogLevel} {seed : Int}
  {mode : Mode} {budget : Nat} {path kind message : String} {machine : Machine}

/-- The session of a run starts with the first machine and the rest of the clock. -/
def firstSession (surroundings : Surroundings) (threshold : LogLevel) (seed : Int) (mode : Mode) :
    Session :=
  .start (surroundings.machine seed mode) surroundings.clock.read.2 (surroundings.logger threshold)

theorem run_of_error {report : Report} (stops : prepare config surroundings = .error report) :
    run config surroundings = report := by
  rw [run, stops]

/-- Where no file is named only the log is opened. -/
theorem prepare_of_unnamed (levelled : LogLevel.ofSetting config.logLevel = .ok threshold)
    (unnamed : config.rom.holds = false) :
    prepare config surroundings = .error ⟨.status 2, "",
      surroundings.onlyRecord threshold .critical "No ROM given, pass rom=<path>", []⟩ := by
  have opened : openLogger config surroundings = .ok (surroundings.logger threshold) := by
    rw [openLogger, levelled]
    rfl
  rw [prepare, opened, ← surroundings.written_logger]
  simp only [unnamed, Bool.false_eq_true, if_false]
  rfl

theorem prepare_of_named (settled : config.Settled threshold seed mode budget)
    (named : config.rom.holds = true) :
    prepare config surroundings = prepareFile config (surroundings.files.readNamed config.rom)
      (firstSession surroundings threshold seed mode) := by
  have opened : openLogger config surroundings = .ok (surroundings.logger threshold) := by
    rw [openLogger, settled.levelled]
    rfl
  have created : createMachine config surroundings.clock =
      .ok (surroundings.machine seed mode, surroundings.clock.read.2) := by
    have seeded : RandomKey.ofSetting config.seed = .ok (.ofSeed seed) := by
      rw [settled.seeded]
      exact if_pos settled.fits
    have moded : Mode.ofSetting config.mode = .ok mode := by
      simp only [settled.named, Mode.ofSetting, Mode.ofName?_name]
    simp only [createMachine, Machine.ofSettings, seeded, moded]
    rfl
  simp only [prepare, opened, named, if_true, created]
  rfl

/-- Either the run ends before the screen is made, and not with the exit status two, or the file of
a path has been loaded. -/
theorem prepareFile_cases (config : Config) (contents : Except Error (List UInt8))
    (session : Session) :
    (∃ report, prepareFile config contents session = .error report ∧ report.exit ≠ .status 2) ∨
      ∃ path program machine, config.rom = .text path ∧ contents = .ok program ∧
        session.machine.loadProgram program = .ok machine := by
  unfold prepareFile
  split
  · exact .inl ⟨_, rfl, nofun⟩
  · exact .inl ⟨_, rfl, nofun⟩
  · rename_i program
    split
    · rename_i machine loaded
      split
      · rename_i path named
        exact .inr ⟨path, program, machine, named, rfl, loaded⟩
      · exact .inl ⟨_, rfl, nofun⟩
    · exact .inl ⟨_, rfl, nofun⟩
    · exact .inl ⟨_, rfl, nofun⟩

/-- A program that cannot be loaded ends the run before the screen is made. -/
theorem prepare_of_loadFails (settled : config.Settled threshold seed mode budget)
    (named : config.rom.holds = true)
    (fails : LoadFails surroundings.files config.rom kind message) :
    prepare config surroundings = .error ⟨.status 1, "",
      surroundings.onlyRecord threshold .error (kind ++ ": " ++ message), []⟩ := by
  rw [prepare_of_named settled named, ← surroundings.written_logger]
  cases fails with
  | unread refused =>
      rw [refused]
      rfl
  | large contents exceeds =>
      have large := (surroundings.machine seed mode).loadProgram_of_large exceeds
      have started : (firstSession surroundings threshold seed mode).machine =
        surroundings.machine seed mode := rfl
      simp only [contents, prepareFile, started, large]
      rfl

/-- A program that is loaded from a path is run by the screen. -/
theorem run_of_loads (settled : config.Settled threshold seed mode budget)
    (given : config.rom = .text path) (named : config.rom.holds = true)
    (loads : surroundings.Loads seed mode config.rom machine) :
    ∃ screen logger, screen.budget? = some budget ∧ run config surroundings =
      runScreen screen (.start machine surroundings.clock.read.2 logger) surroundings := by
  obtain ⟨program, contents, loaded⟩ := loads
  obtain ⟨screen, chosen, budgeted⟩ := settled.screened
  refine ⟨screen, (surroundings.logger threshold).logLoad path program.length, budgeted, ?_⟩
  have started : (firstSession surroundings threshold seed mode).machine =
    surroundings.machine seed mode := rfl
  rw [run, prepare_of_named settled named, contents]
  simp only [prepareFile, started, loaded, given, prepareScreen, chosen]
  rfl

/-- The exit status of a screen tells whether the steps within its budget meet a fault. -/
theorem exit_runScreen {screen : Screen} (budgeted : screen.budget? = some budget) {clock : Clock}
    (reached : machine.Reachable) (accepted : machine.AcceptsAll (clock.take budget))
    (logger : Logger) (surroundings : Surroundings) :
    ∃ fault? : Option Fault,
      (∀ fault, fault? = some fault ↔
        machine.steps (clock.take budget) = .error (.fault fault)) ∧
      (runScreen screen (.start machine clock logger) surroundings).exit =
        .status (if fault?.isSome then 1 else 0) := by
  obtain ⟨final, fault?, stops, outcome, _⟩ := Machine.course_stops reached accepted
  refine ⟨fault?, stops.fault_eq_some_iff, ?_⟩
  have follows := Session.play_follows (.start machine clock logger) rfl budget
    (Course.stopsByFault_of_map outcome)
  have exits {playback : Playback}
      (follows : playback.Follows (machine.course (clock.take budget)) machine [] logger.count) :
      exitOf playback.ending playback.session = .status (if fault?.isSome then 1 else 0) := by
    have same : playback.session.fault? = fault? :=
      (Option.map_inj_right fun _ _ => Error.fault.inj).mp (follows.fault.symm.trans outcome)
    rw [follows.ending, ← same]
    split
    · rfl
    · rfl
  cases screen with
  | window style => cases budgeted
  | terminal limit? =>
      obtain ⟨limit, rfl, rfl⟩ := Option.map_eq_some_iff.mp budgeted
      have played : Terminal.run (.start machine clock logger) (some limit) surroundings.patience =
        Session.play (.start machine clock logger) limit.toNat := Terminal.run_eq_play _ _ _
      rw [runScreen, played]
      exact exits follows
  | headless count =>
      cases budgeted
      exact exits (Headless.report_follows follows)

/-- The file cannot be loaded, or the steps of its program meet a fault within the budget. -/
def Fails (surroundings : Surroundings) (seed : Int) (mode : Mode) (rom : Literal)
    (budget : Nat) : Prop :=
  (∃ kind message, LoadFails surroundings.files rom kind message) ∨
    ∃ machine fault, surroundings.Loads seed mode rom machine ∧
      machine.steps (surroundings.readings budget) = .error (.fault fault)

theorem loads_or_fails (whole : path.contains '\x00' = false) (surroundings : Surroundings)
    (seed : Int) (mode : Mode) :
    (∃ kind message, LoadFails surroundings.files (.text path) kind message) ∨
      ∃ machine, surroundings.Loads seed mode (.text path) machine := by
  have read : surroundings.files.readNamed (.text path) =
      (surroundings.files.atPath path).mapError .file := by
    simp only [FileSystem.readNamed, FileSystem.read, whole, Bool.false_eq_true, if_false]
    cases surroundings.files.atPath path with
    | ok contents => rfl
    | error error => rfl
  cases contents : surroundings.files.atPath path with
  | error error =>
      rw [contents] at read
      exact .inl ⟨_, _, .unread read⟩
  | ok program =>
      rw [contents] at read
      by_cases fits : program.length ≤ 3584
      · exact .inr ⟨_, program, read, Machine.loadProgram_of_fits _ fits⟩
      · exact .inl ⟨_, _, .large read (Nat.lt_of_not_le fits)⟩

section Named

variable (settled : config.Settled threshold seed mode budget) (named : config.rom.holds = true)
  (accepted : ∀ machine, surroundings.Loads seed mode config.rom machine →
    machine.AcceptsAll (surroundings.readings budget))
include settled named accepted

theorem exit_of_loads (given : config.rom = .text path)
    (loads : surroundings.Loads seed mode config.rom machine) :
    ∃ fault? : Option Fault,
      (∀ fault, fault? = some fault ↔
        machine.steps (surroundings.readings budget) = .error (.fault fault)) ∧
      (run config surroundings).exit = .status (if fault?.isSome then 1 else 0) := by
  have accepts := accepted machine loads
  obtain ⟨screen, logger, budgeted, runs⟩ := run_of_loads settled given named loads
  obtain ⟨program, _, loaded⟩ := loads
  rw [runs]
  exact exit_runScreen budgeted (Machine.reachable_loadProgram loaded) accepts logger surroundings

theorem exit_of_fails (given : config.rom = .text path)
    (fails : Fails surroundings seed mode config.rom budget) :
    (run config surroundings).exit = .status 1 := by
  rcases fails with ⟨kind, message, fails⟩ | ⟨machine, fault, loads, failed⟩
  · rw [run_of_error (prepare_of_loadFails settled named fails)]
  · obtain ⟨fault?, met, exit⟩ := exit_of_loads settled named accepted given loads
    rw [exit, (met fault).mpr failed]
    rfl

theorem exit_of_not_fails (given : config.rom = .text path) (whole : path.contains '\x00' = false)
    (succeeds : ¬Fails surroundings seed mode config.rom budget) :
    (run config surroundings).exit = .status 0 := by
  rcases loads_or_fails whole surroundings seed mode with fails | ⟨machine, loads⟩
  · exact absurd (.inl (given ▸ fails)) succeeds
  · rw [← given] at loads
    obtain ⟨fault?, met, exit⟩ := exit_of_loads settled named accepted given loads
    cases fault? with
    | none => exact exit
    | some fault => exact absurd (.inr ⟨machine, fault, loads, (met fault).mp rfl⟩) succeeds

/-- Where a file is named the exit status is never two. -/
theorem exit_ne_two : (run config surroundings).exit ≠ .status 2 := by
  rcases prepareFile_cases config (surroundings.files.readNamed config.rom)
    (firstSession surroundings threshold seed mode) with
    ⟨report, ends, other⟩ | ⟨path, program, machine, given, contents, loaded⟩
  · rw [run_of_error ((prepare_of_named settled named).trans ends)]
    exact other
  · obtain ⟨fault?, _, exit⟩ :=
      exit_of_loads settled named accepted given ⟨program, contents, loaded⟩
    rw [exit]
    cases fault? with
    | none => nofun
    | some fault => nofun

end Named

/-- The exit status is two if and only if the setting of the file counts as false, and then the
files, the clock and the other settings make no difference. A file that cannot be loaded makes it
one, and leaves a single record. With a path it is one if the file cannot be loaded or a step within
the budget meets a fault, and zero otherwise. -/
theorem exit_status_exact (settled : config.Settled threshold seed mode budget)
    (accepted : ∀ machine, surroundings.Loads seed mode config.rom machine →
      machine.AcceptsAll (surroundings.readings budget)) :
    let report := run config surroundings
    (report.exit = .status 2 ↔
      config.rom ∈ [.nothing, .text "", .number 0, .flag false, .list []]) ∧
    (report.exit = .status 2 → ∀ (other : Config) (elsewhere : Surroundings),
      other.rom = config.rom → other.logLevel = config.logLevel →
        elsewhere.coloredLog = surroundings.coloredLog → elsewhere.wall = surroundings.wall →
          run other elsewhere = report) ∧
    (report.exit ≠ .status 2 → ∀ kind message,
      LoadFails surroundings.files config.rom kind message →
        prepare config surroundings = .error report ∧ report = ⟨.status 1, "",
          surroundings.onlyRecord threshold .error (kind ++ ": " ++ message), []⟩) ∧
    ∀ path, config.rom = .text path → path ≠ "" → path.contains '\x00' = false →
      (report.exit = .status 1 ↔ Fails surroundings seed mode config.rom budget) ∧
      (report.exit = .status 0 ↔ ¬Fails surroundings seed mode config.rom budget) := by
  intro report
  have unnamed (absent : config.rom.holds = false) : report = ⟨.status 2, "",
      surroundings.onlyRecord threshold .critical "No ROM given, pass rom=<path>", []⟩ :=
    run_of_error (prepare_of_unnamed settled.levelled absent)
  have two : report.exit = .status 2 ↔ config.rom.holds = false := by
    constructor
    · intro two
      refine Bool.eq_false_iff.mpr fun named => ?_
      exact exit_ne_two settled named accepted two
    · intro absent
      rw [unnamed absent]
  refine ⟨two.trans Literal.holds_eq_false_iff, fun ends other elsewhere same level colored wall =>
    ?_, fun goes kind message fails => ?_, fun path given nonempty whole => ?_⟩
  · have absent := two.mp ends
    rw [unnamed absent, ← Surroundings.onlyRecord_congr colored wall]
    exact run_of_error (prepare_of_unnamed (level ▸ settled.levelled) (same ▸ absent))
  · have named : config.rom.holds = true := eq_true_of_ne_false (mt two.mpr goes)
    have stops := prepare_of_loadFails settled named fails
    have ends : report = _ := run_of_error stops
    exact ⟨ends ▸ stops, ends⟩
  · have named : config.rom.holds = true := by simp [given, Literal.holds, nonempty]
    by_cases fails : Fails surroundings seed mode config.rom budget
    · have one : report.exit = .status 1 := exit_of_fails settled named accepted given fails
      refine ⟨iff_of_true one fails, iff_of_false ?_ (not_not_intro fails)⟩
      rw [one]
      nofun
    · have zero : report.exit = .status 0 :=
        exit_of_not_fails settled named accepted given whole fails
      refine ⟨iff_of_false ?_ fails, iff_of_true zero fails⟩
      rw [zero]
      nofun

/-- Everywhere stands a program that starts with a word without meaning. -/
def badWordEverywhere : Surroundings where
  files := ⟨fun _ => .ok [0xFF, 0xFF], fun _ => .ok [0xFF, 0xFF]⟩
  arrays := .roomy
  coloredLog := false
  clock := ⟨[]⟩
  wall := ⟨[]⟩
  events := []
  patience := 0

/-- This run without a screen has five cycles at most. -/
def fiveCycles (rom : Literal) : Config :=
  { rom := rom, frontend := "headless", steps := some 5 }

theorem settled_fiveCycles (rom : Literal) :
    (fiveCycles rom).Settled .info 0 .basic64x32 5 where
  levelled := show LogLevel.ofSetting (some "INFO") = .ok .info by decide +kernel
  seeded := rfl
  fits := by decide
  named := rfl
  screened := ⟨.headless 5, rfl, rfl⟩

/-- The first step meets the word without meaning. -/
theorem exit_status_of_badWord :
    let config := fiveCycles (.text "game.ch8")
    config.Settled .info 0 .basic64x32 5 ∧
      (∀ machine, badWordEverywhere.Loads 0 .basic64x32 config.rom machine →
        machine.AcceptsAll (badWordEverywhere.readings 5)) ∧
      (run config badWordEverywhere).exit = .status 1 := by
  intro config
  have settled : config.Settled .info 0 .basic64x32 5 := settled_fiveCycles (.text "game.ch8")
  have read : badWordEverywhere.files.readNamed config.rom = .ok [0xFF, 0xFF] :=
    if_neg (by simp)
  have accepted machine (loads : badWordEverywhere.Loads 0 .basic64x32 config.rom machine) :
      machine.AcceptsAll (badWordEverywhere.readings 5) := by
    obtain ⟨program, contents, loaded⟩ := loads
    cases read.symm.trans contents
    cases loaded
    decide +kernel
  refine ⟨settled, accepted, ?_⟩
  obtain ⟨_, _, _, exits⟩ := exit_status_exact settled accepted
  obtain ⟨one, _⟩ := exits "game.ch8" rfl (by decide) (by simp)
  have loaded : (badWordEverywhere.machine 0 .basic64x32).loadProgram [0xFF, 0xFF] = .ok _ :=
    Machine.loadProgram_of_fits _ (by decide)
  exact one.mpr (.inr ⟨_, .invalidOpcode 0xFFFF, ⟨_, read, loaded⟩, by decide +kernel⟩)

/-- A setting that is false is neither empty nor unset, but it names no file. -/
theorem exit_two_of_false :
    let config := fiveCycles (.flag false)
    config.Settled .info 0 .basic64x32 5 ∧ config.rom ≠ .nothing ∧ config.rom ≠ .text "" ∧
      (run config badWordEverywhere).exit = .status 2 := by
  intro config
  have settled : config.Settled .info 0 .basic64x32 5 := settled_fiveCycles (.flag false)
  refine ⟨settled, nofun, nofun, ?_⟩
  rw [run_of_error (prepare_of_unnamed settled.levelled rfl)]

end Program

end Chip8
