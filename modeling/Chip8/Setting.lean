import Chip8.Host
import Chip8.Mode
import Chip8.RandomKey
import Chip8.Text.Quoted

/-!
This file reads the settings that choose among known values.
-/

namespace Chip8

/-- A setting may be missing, be unset or name nothing known, and a seed may be too large. -/
inductive SettingError where
  | missing (name : String)
  | noSeed
  | noMode
  | noLevel
  | unknownMode (name : String)
  | unknownScheme (name : String)
  | unknownFrontend (name : String)
  | unknownLevel (name : String)
  | wideSeed
  deriving DecidableEq, Repr

def SettingError.message : SettingError → String
  | .missing name => Quoted.quote name
  | .noSeed => "None is not a valid value for jnp.array"
  | .noMode => "None"
  | .noLevel => "'NoneType' object has no attribute 'upper'"
  | .unknownMode name => Quoted.quote name
  | .unknownScheme name => "Unknown color scheme '" ++ name ++
      "'. Available: ['amber', 'blue', 'classic', 'retro', 'white']"
  | .unknownFrontend name => "Unknown frontend '" ++ name ++
      "'. Available: pygame, terminal, headless"
  | .unknownLevel name => "Unknown log level '" ++ name ++
      "'. Available: ['DEBUG', 'INFO', 'WARNING', 'ERROR', 'CRITICAL']"
  | .wideSeed => "Python int too large to convert to C long"

def Mode.ofSetting (name? : Option String) : Except SettingError Mode :=
  match name? with
  | none => .error .noMode
  | some name =>
      match Mode.ofName? name with
      | some mode => .ok mode
      | none => .error (.unknownMode name)

/-- A seed must fit a signed 64-bit word. -/
def RandomKey.ofSetting (seed? : Option Int) : Except SettingError RandomKey :=
  match seed? with
  | none => .error .noSeed
  | some seed => if fitsLong seed then .ok (.ofSeed seed) else .error .wideSeed

end Chip8
