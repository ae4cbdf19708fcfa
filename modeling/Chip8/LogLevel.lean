import Chip8.Setting

/-!
This file defines the levels of log messages.
-/

namespace Chip8

/-- The levels stand in the order of their weight. -/
inductive LogLevel where
  | debug
  | info
  | warning
  | error
  | critical
  deriving DecidableEq, Repr

namespace LogLevel

def all : List LogLevel := [.debug, .info, .warning, .error, .critical]

def name : LogLevel → String
  | .debug => "DEBUG"
  | .info => "INFO"
  | .warning => "WARNING"
  | .error => "ERROR"
  | .critical => "CRITICAL"

def weight : LogLevel → Nat
  | .debug => 0
  | .info => 1
  | .warning => 2
  | .error => 3
  | .critical => 4

/-- A terminal shows each level in a colour of its own. -/
def escape : LogLevel → String
  | .debug => "\x1b[36m"
  | .info => "\x1b[32m"
  | .warning => "\x1b[33m"
  | .error => "\x1b[31m"
  | .critical => "\x1b[35m"

/-- A level is found by its exact name. -/
def ofName? (name : String) : Option LogLevel := all.find? fun level => level.name == name

/-- Of the characters outside the basic alphabet, only the dotless i has a capital inside it. -/
def capital (c : Char) : Char := if c = 'ı' then 'I' else c.toUpper

/-- A setting may use small letters. -/
def ofSetting (name? : Option String) : Except SettingError LogLevel :=
  match name? with
  | none => .error .noLevel
  | some name =>
      match ofName? (name.map capital) with
      | some level => .ok level
      | none => .error (.unknownLevel name)

end LogLevel

end Chip8
