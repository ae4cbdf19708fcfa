import Chip8.Cause
import Chip8.Clock
import Chip8.Instruction.Decode
import Chip8.LogLevel
import Chip8.Machine
import Chip8.Text.Fixed

/-!
This file writes log lines and the reports of a run.
-/

namespace Chip8

/-- Only the messages from the threshold upwards are written. -/
structure LogStyle where
  name : String := "chip8vm"
  threshold : LogLevel := .info
  colored : Bool := false
  timed : Bool := true
  deriving DecidableEq, Repr

/-- The logger counts instructions and keeps what it has written. -/
structure Logger where
  style : LogStyle
  start : Float
  wall : Clock
  count : Nat
  written : String

namespace Logger

/-- The first reading of the wall clock is the start of the run. -/
def create (style : LogStyle) (wall : Clock) : Logger :=
  let (start, wall) := wall.read
  ⟨style, start.seconds, wall, 0, ""⟩

def readWall (logger : Logger) : Float × Logger :=
  let (now, wall) := logger.wall.read
  (now.seconds, { logger with wall := wall })

def enabled (logger : Logger) (level : LogLevel) : Bool :=
  logger.style.threshold.weight ≤ level.weight

/-- The level stands in a field of eight columns. -/
def tag (style : LogStyle) (level : LogLevel) : String :=
  let plain := "[" ++ Fixed.alignRight 8 level.name ++ "]"
  if style.colored then level.escape ++ plain ++ "\x1b[0m" else plain

/-- The elapsed time counts from the start of the run. -/
def timestamp (elapsed : Float) : String :=
  "[" ++ Fixed.alignRight 8 (Fixed.text 2 elapsed) ++ "s]"

def write (logger : Logger) (stamp : String) (level : LogLevel) (message : String) : Logger :=
  { logger with
    written := logger.written ++
      (stamp ++ tag logger.style level ++ "[" ++ logger.style.name ++ "] " ++ message ++ "\n") }

/-- The wall clock is read only for a line that is written with a timestamp. -/
def log (logger : Logger) (level : LogLevel) (message : String) : Logger :=
  if logger.enabled level then
    if logger.style.timed then
      let (now, logger) := logger.readWall
      logger.write (timestamp (now - logger.start)) level message
    else logger.write "" level message
  else logger

def loadMessage (source size : String) : String := "Loaded " ++ source ++ " (" ++ size ++ " bytes)"

def logLoad (logger : Logger) (source : String) (size : Nat) : Logger :=
  logger.log .info (loadMessage source (toString size))

/-- Each instruction counts, and a trace of it is written at the lowest level. -/
def logInstruction (logger : Logger) (pc opcode : Int) : Logger :=
  { logger with count := logger.count + 1 }.log .debug
    (Hex.padded 3 pc ++ ": " ++ Instruction.disassemble opcode)

/-- The registers are numbered with one hexadecimal digit. -/
def describeRegisters (registers : Registers) : String :=
  " ".intercalate (registers.cells.toList.mapIdx fun number value =>
    "V" ++ Hex.upper number ++ "=" ++ Hex.padded 2 value.toNat)

def describeMachine (machine : Machine) : String :=
  "PC=" ++ Hex.padded 3 machine.pc.toNat ++ " I=" ++ Hex.padded 3 machine.index.toNat ++
    " SP=" ++ toString machine.stack.depth ++
    " DT=" ++ toString machine.timers.delay.toNat ++
    " ST=" ++ toString machine.timers.sound.toNat ++
    " " ++ describeRegisters machine.registers

def logMachine (logger : Logger) (machine : Machine) : Logger :=
  logger.log .debug (describeMachine machine)

def logError (logger : Logger) (kind message : String) : Logger :=
  logger.log .error (kind ++ ": " ++ message)

/-- A cause with wrong arguments cannot be reported. -/
def logCause (logger : Logger) (cause : Cause) : Except CauseError Logger :=
  cause.message.map (logger.logError cause.name)

/-- The second line of the report on an error tells where the machine stands. -/
def logHalt (logger : Logger) (machine : Machine) : Logger :=
  logger.log .error ("Halted at pc=0x" ++ Hex.padded 3 machine.pc.toNat ++ " after " ++
    toString logger.count ++ " instructions")

/-- A run without positive duration has no rate. -/
def rate (count : Nat) (elapsed : Float) : Float :=
  if 0 < elapsed then Float.ofNat count / elapsed else 0

def logSummary (logger : Logger) (elapsed : Float) : Logger :=
  logger.log .info ("Executed " ++ toString logger.count ++ " instructions in " ++
    Fixed.text 2 elapsed ++ "s (" ++ Fixed.text 0 (rate logger.count elapsed) ++ " Hz)")

end Logger

end Chip8
