import Chip8.Frontend.Headless
import Chip8.Frontend.Terminal
import Chip8.Frontend.Window

/-!
This file defines the configuration of a run and the screen that it asks for.
-/

namespace Chip8

/-- A setting may be unset, which counts only when it is read. The program file may be any value.
The budget of steps is for the terminal and for runs without a screen. -/
structure Config where
  rom : Literal := .nothing
  frontend : String := "pygame"
  mode : Option String := some "BASIC_64x32"
  cyclesPerFrame : Option Int := some 10
  rate : Option Int := some 60
  scale : Option Int := some 10
  scheme : String := "classic"
  steps : Option Int := none
  seed : Option Int := some 0
  logLevel : Option String := some "INFO"
  deriving DecidableEq, Repr

/-- The word null unsets a setting. -/
def Config.optional {α : Type} (read : String → Option α) (value : String) :
    Option (Option α) :=
  if value = "null" then some none else (read value).map some

/-- A word that names the nothing, a truth value or a number stands for it, and else for itself. -/
def Config.literal (word : String) : Literal :=
  match word with
  | "null" => .nothing
  | "true" => .flag true
  | "false" => .flag false
  | word =>
      match word.toInt? with
      | some value => .number value
      | none => .text word

/-- A setting is found by its name, and its value must have the right form. -/
def Config.write? (config : Config) (name value : String) : Option Config :=
  match name with
  | "rom" => some { config with rom := literal value }
  | "frontend" => some { config with frontend := value }
  | "display_mode" => (optional some value).map fun mode => { config with mode }
  | "instructions_per_frame" =>
      (optional String.toInt? value).map fun cyclesPerFrame => { config with cyclesPerFrame }
  | "fps" => (optional String.toInt? value).map fun rate => { config with rate }
  | "scale" => (optional String.toInt? value).map fun scale => { config with scale }
  | "color_scheme" => some { config with scheme := value }
  | "steps" => (optional String.toInt? value).map fun steps => { config with steps }
  | "seed" => (optional String.toInt? value).map fun seed => { config with seed }
  | "log_level" => (optional some value).map fun logLevel => { config with logLevel }
  | _ => none

/-- Three question marks leave the setting as it is. -/
def Config.set? (config : Config) (name value : String) : Option Config :=
  if value = "???" then some config else config.write? name value

/-- The argument holds a name and a value, which the first equals sign parts. -/
def Config.override? (config : Config) (argument : String) : Option Config :=
  match argument.splitOn "=" with
  | name :: value :: rest => config.set? name ("=".intercalate (value :: rest))
  | _ => none

/-- A screen is chosen together with its settings. -/
inductive Screen where
  | window (style : WindowStyle)
  | terminal (limit? : Option Int)
  | headless (count : Int)
  deriving DecidableEq, Repr

/-- A run without a screen has this budget unless another one is set. -/
def defaultBudget : Int := 10000

/-- Zero counts as unset for a run without a screen. -/
def Config.headlessBudget (config : Config) : Int :=
  match config.steps with
  | some steps => if steps = 0 then defaultBudget else steps
  | none => defaultBudget

/-- The colour scheme matters only to a window. -/
def Config.screen (config : Config) : Except SettingError Screen :=
  match config.frontend with
  | "pygame" =>
      match Scheme.ofSetting config.scheme with
      | .ok scheme => .ok (.window ⟨config.scale, config.rate, config.cyclesPerFrame, scheme⟩)
      | .error error => .error error
  | "terminal" => .ok (.terminal config.steps)
  | "headless" => .ok (.headless config.headlessBudget)
  | frontend => .error (.unknownFrontend frontend)

/-- These settings are read for a screen, in this order. -/
def settingsRead (frontend : String) : List String :=
  match frontend with
  | "pygame" => ["frontend", "scale", "fps", "instructions_per_frame", "color_scheme"]
  | "terminal" | "headless" => ["frontend", "steps"]
  | _ => ["frontend"]

/-- A missing setting is reported before a wrong one. -/
def Config.screenFrom (config : Config) (given : String → Bool) : Except SettingError Screen :=
  match (settingsRead config.frontend).find? fun name => !given name with
  | some name => .error (.missing name)
  | none => config.screen

end Chip8
