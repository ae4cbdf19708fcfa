import Chip8.Logger
import Chip8.Machine.Step

/-!
This file drives a machine cycle by cycle and reports on it.
-/

namespace Chip8

/-- A session joins a machine with its clock and its logger, and keeps the last fault. -/
structure Session where
  machine : Machine
  clock : Clock
  logger : Logger
  fault? : Option Fault

/-- A cycle goes well, meets a fault of the program, or breaks off. -/
inductive Progress where
  | running
  | halted
  | crashed (error : Error)
  deriving DecidableEq, Repr

namespace Session

def start (machine : Machine) (clock : Clock) (logger : Logger) : Session :=
  ⟨machine, clock, logger, none⟩

/-- The report on a fault has the fault, the place and the registers. -/
def halt (session : Session) (fault : Fault) : Session :=
  { session with
    fault? := some fault
    logger := ((session.logger.logError fault.name fault.message).logHalt
      session.machine).logMachine session.machine }

/-- The instruction is reported before it runs, and each cycle takes one clock reading. -/
def cycle (session : Session) : Progress × Session :=
  let logger := session.logger.logInstruction session.machine.pc.toNat session.machine.peek
  let (now, clock) := session.clock.read
  let ready : Session := { session with logger := logger, clock := clock }
  match session.machine.step now with
  | .ok machine => (.running, { ready with machine := machine })
  | .error (.fault fault) => (.halted, ready.halt fault)
  | .error error => (.crashed error, ready)

/-- A turn is a cycle and, if it goes well, a look at the display. -/
def turn (session : Session) : Progress × Option Display × Session :=
  match session.cycle with
  | (.running, next) =>
      let (frame?, machine) := next.machine.consumeFrame
      (.running, frame?, { next with machine := machine })
  | (ending, next) => (ending, none, next)

def readWall (session : Session) : Float × Session :=
  let (now, logger) := session.logger.readWall
  (now, { session with logger := logger })

/-- The end of a run is read from the wall clock before the summary is written. -/
def summarize (session : Session) (start : Float) : Session :=
  let (now, session) := session.readWall
  { session with logger := session.logger.logSummary (now - start) }

end Session

/-- A playback holds the frames that a run has shown. -/
structure Playback where
  frames : List Display
  ending : Progress
  session : Session

namespace Session

/-- The turns go on until one fails or the budget is used up. -/
def turns (session : Session) (shown : List Display) : Nat → Playback
  | 0 => ⟨shown.reverse, .running, session⟩
  | budget + 1 =>
      match session.turn with
      | (.running, frame?, next) => next.turns (frame?.toList ++ shown) budget
      | (ending, _, next) => ⟨shown.reverse, ending, next⟩

/-- The same loop where the world outside makes the turns and sees the frames. -/
def turnsIn {m : Type → Type} [Monad m]
    (turn : Session → m (Progress × Option Display × Session)) (draw : Display → m Unit)
    (session : Session) : Nat → m (Progress × Session)
  | 0 => return (.running, session)
  | budget + 1 => do
      match ← turn session with
      | (.running, frame?, next) =>
          if let some frame := frame? then draw frame
          turnsIn turn draw next budget
      | (ending, _, next) => return (ending, next)

/-- The summary of a loop is left out when the loop has broken off. -/
def timed (session : Session) (loop : Session → Playback) : Playback :=
  let (start, session) := session.readWall
  let playback := loop session
  match playback.ending with
  | .crashed _ => playback
  | _ => { playback with session := playback.session.summarize start }

def play (session : Session) (budget : Nat) : Playback :=
  session.timed fun session => session.turns [] budget

end Session

end Chip8
