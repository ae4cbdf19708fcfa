import Chip8.Program

/-!
This file runs a program file from the command line.
-/

namespace Chip8

/-- The clock counts seconds from a fixed moment. -/
def secondsNow : IO Float := do
  return Float.ofNat (← IO.monoNanosNow) / 1000000000

def readFile (path : String) : IO (Except FileError (List UInt8)) := do
  try
    return .ok (← IO.FS.readBinFile path).toList
  catch error =>
    match error with
    | .inappropriateType _ 21 _ => return .error (.isDirectory path)
    | .inappropriateType .. => return .error (.notDirectory path)
    | .permissionDenied .. => return .error (.denied path)
    | .invalidArgument .. => return .error (.nameTooLong path)
    | _ => return .error (.notFound path)

/-- Both clocks of the session stand still until the next look at the time. -/
def Session.stopClocks (session : Session) (now : Float) : Session :=
  { session with
    clock := ⟨[.ofSeconds now]⟩
    logger := { session.logger with wall := ⟨[.ofSeconds now]⟩ } }

/-- The log goes out as soon as it is written. -/
def Session.flush (session : Session) : IO Session := do
  IO.eprint session.logger.written
  return { session with logger := { session.logger with written := "" } }

/-- Each turn reads the time anew. -/
def Session.liveTurn (session : Session) : IO (Progress × Option Display × Session) := do
  let (progress, frame?, next) := (session.stopClocks (← secondsNow)).turn
  return (progress, frame?, ← next.flush)

/-- No run is longer than this. -/
def patience : Nat := 0x1000000000000000

/-- The frames are drawn and counted. -/
def playScreen (draw : Display → IO Unit) (budget : Nat) (report : Nat → Option String)
    (session : Session) : IO Exit := do
  let start ← secondsNow
  let frames ← IO.mkRef 0
  let drawCounted (frame : Display) : IO Unit := do
    draw frame
    frames.modify (· + 1)
  let (progress, final) ← session.turnsIn Session.liveTurn drawCounted budget
  if let .crashed _ := progress then return Program.exitOf progress final
  let closed := (final.stopClocks (← secondsNow)).summarize start
  let logger := match report (← frames.get) with
    | some message => closed.logger.log .info message
    | none => closed.logger
  let _ ← { closed with logger }.flush
  return Program.exitOf progress closed

/-- A window needs a window system, which a terminal lacks. -/
def runCommand (screen : Screen) (session : Session) : IO Exit := do
  let session ← session.flush
  match screen with
  | .window _ =>
      IO.eprintln "No window system found, pass frontend=terminal or frontend=headless"
      return .status 1
  | .terminal limit? =>
      let draw (frame : Display) : IO Unit := do
        let out ← IO.getStdout
        out.putStr (Terminal.frame frame)
        out.flush
      playScreen draw (limit?.getD patience).toNat (fun _ => none) session
  | .headless count =>
      let report (frames : Nat) : Option String := some (Headless.message frames)
      playScreen (fun _ => pure ()) count.toNat report session

def Failure.message : Failure → String
  | .setting error => error.message
  | .machine error => error.message

def exitCode : Exit → IO UInt32
  | .status code => return UInt32.ofNat code
  | .failure failure => do
      IO.eprintln failure.message
      return 1

/-- No file is open at the start. -/
def noDescriptor : Except FileError (List UInt8) := .error (.badDescriptor none)

def runConfig (config : Config) : IO UInt32 := do
  let contents ← match config.rom with
    | .text path => readFile path
    | _ => pure noDescriptor
  let now : Clock := ⟨[.ofSeconds (← secondsNow)]⟩
  let surroundings : Surroundings := {
    files := ⟨fun _ => contents, fun _ => noDescriptor⟩
    arrays := .roomy
    coloredLog := ← (← IO.getStderr).isTty
    clock := now
    wall := now
    events := []
    patience := 0 }
  match Program.prepare config surroundings with
  | .ok (screen, session) => exitCode (← runCommand screen session)
  | .error report =>
      IO.eprint report.log
      exitCode report.exit

end Chip8

/-- Each argument overrides one setting. -/
def main (arguments : List String) : IO UInt32 := do
  match arguments.foldlM Chip8.Config.override? {} with
  | some config => Chip8.runConfig config
  | none =>
      IO.eprintln "Arguments have the form name=value, for instance rom=game.ch8 frontend=terminal"
      return 1
