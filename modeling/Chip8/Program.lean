import Chip8.Config
import Chip8.Machine.Load

/-!
This file runs a program file from its configuration to its exit status.
-/

namespace Chip8

/-- A run finds these things outside. -/
structure Surroundings where
  files : FileSystem
  arrays : ArrayLibrary
  coloredLog : Bool
  clock : Clock
  wall : Clock
  events : List (List WindowEvent)
  patience : Nat

/-- An error that nobody handles breaks off the run. -/
inductive Failure where
  | setting (error : SettingError)
  | machine (error : Error)
  deriving DecidableEq, Repr

inductive Exit where
  | status (code : Nat)
  | failure (failure : Failure)
  deriving DecidableEq, Repr

/-- A report holds all that a run has shown. -/
structure Report where
  exit : Exit
  output : String
  log : String
  acts : List WindowAct
  deriving DecidableEq, Repr

namespace Program

/-- The logger is the first thing to be set up. -/
def openLogger (config : Config) (surroundings : Surroundings) : Except SettingError Logger := do
  let threshold ← LogLevel.ofSetting config.logLevel
  return Logger.create { threshold, colored := surroundings.coloredLog } surroundings.wall

/-- The machine reads the clock when it is made. -/
def createMachine (config : Config) (clock : Clock) : Except SettingError (Machine × Clock) := do
  let (now, clock) := clock.read
  return (← Machine.ofSettings config.seed config.mode now, clock)

/-- A report without frames ends the run at once. -/
def stopped (exit : Exit) (logger : Logger) : Report := ⟨exit, "", logger.written, []⟩

/-- A fault makes the exit status one. -/
def exitOf (progress : Progress) (session : Session) : Exit :=
  match progress with
  | .crashed error => .failure (.machine error)
  | _ => .status (if session.fault?.isSome then 1 else 0)

def reportPlayback (playback : Playback) (output : String) : Report :=
  ⟨exitOf playback.ending playback.session, output, playback.session.logger.written, []⟩

def runScreen (screen : Screen) (session : Session) (surroundings : Surroundings) : Report :=
  match screen with
  | .window style =>
      let window := Window.create session surroundings.arrays style
      let (progress, final) := window.run surroundings.events
      ⟨exitOf progress final.session, "", final.session.logger.written, final.record⟩
  | .terminal limit? =>
      let playback := Terminal.run session limit? surroundings.patience
      reportPlayback playback (Terminal.output playback)
  | .headless count => reportPlayback (Headless.run session count) ""

/-- The size of the program is logged before the screen is chosen. -/
def prepareScreen (config : Config) (path : String) (size : Nat) (session : Session) :
    Except Report (Screen × Session) :=
  let session := { session with logger := session.logger.logLoad path size }
  match config.screen with
  | .ok screen => .ok (screen, session)
  | .error error => .error (stopped (.failure (.setting error)) session.logger)

/-- A file that cannot be read and a program that is too large make the exit status one. Behind a
descriptor the file is closed when it has been read, and its size is not found any more. -/
def prepareFile (config : Config) (contents : Except Error (List UInt8)) (session : Session) :
    Except Report (Screen × Session) :=
  match contents with
  | .error (.file error) =>
      .error (stopped (.status 1) (session.logger.logError error.name error.message))
  | .error error => .error (stopped (.failure (.machine error)) session.logger)
  | .ok program =>
      match session.machine.loadProgram program with
      | .ok machine =>
          match config.rom with
          | .text path =>
              prepareScreen config path program.length { session with machine := machine }
          | name =>
              let closed : FileError := .badDescriptor (some name)
              .error (stopped (.failure (.machine (.file closed))) session.logger)
      | .error (.fault fault) =>
          .error (stopped (.status 1) (session.logger.logError fault.name fault.message))
      | .error error => .error (stopped (.failure (.machine error)) session.logger)

/-- Where no file is named the exit status is two, and no machine is made. -/
def prepare (config : Config) (surroundings : Surroundings) : Except Report (Screen × Session) :=
  match openLogger config surroundings with
  | .error error => .error ⟨.failure (.setting error), "", "", []⟩
  | .ok logger =>
      if config.rom.holds then
        match createMachine config surroundings.clock with
        | .error error => .error (stopped (.failure (.setting error)) logger)
        | .ok (machine, clock) =>
            prepareFile config (surroundings.files.readNamed config.rom)
              (.start machine clock logger)
      else .error (stopped (.status 2) (logger.log .critical "No ROM given, pass rom=<path>"))

def run (config : Config) (surroundings : Surroundings) : Report :=
  match prepare config surroundings with
  | .ok (screen, session) => runScreen screen session surroundings
  | .error report => report

end Program

end Chip8
