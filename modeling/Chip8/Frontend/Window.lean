import Chip8.Frontend.PhysicalKey
import Chip8.Picture
import Chip8.Session

/-!
This file shows a run in a window, which answers the keyboard.
-/

namespace Chip8

inductive WindowEvent where
  | keyDown (key : PhysicalKey)
  | keyUp (key : PhysicalKey)
  | quit
  | other
  deriving DecidableEq, Repr

/-- The window system is asked for these acts. -/
inductive WindowAct where
  | resize (width height : Int)
  | tick (rate : Option Int)
  | picture (image : Image)
  | overlay (image : Image) (lines : List String)
  deriving DecidableEq, Repr

/-- A missing rate sets no pace, but the other two numbers are needed in the end. -/
structure WindowStyle where
  scale : Option Int := some 10
  rate : Option Int := some 60
  cyclesPerFrame : Option Int := some 10
  scheme : Scheme := .classic
  deriving DecidableEq, Repr

/-- The window draws on a surface, which has a width and a height, and lists its acts with the
latest one first. -/
structure Window where
  session : Session
  arrays : ArrayLibrary
  style : WindowStyle
  surface : Option (Int × Int)
  overlaid : Bool
  paused : Bool
  acts : List WindowAct

namespace Window

/-- A new window has no surface yet, and it is neither overlaid nor paused. -/
def create (session : Session) (arrays : ArrayLibrary) (style : WindowStyle) : Window :=
  ⟨session, arrays, style, none, false, false, []⟩

def act (window : Window) (step : WindowAct) : Window :=
  { window with acts := step :: window.acts }

/-- The acts of a run in their order. -/
def record (window : Window) : List WindowAct := window.acts.reverse

/-- The size of the window follows the mode. -/
def size (window : Window) (scale : Int) : Int × Int :=
  let (width, height) := window.session.machine.resolution
  (width * scale, height * scale)

/-- No side of a window is longer. -/
def sideLimit : Int := 16384

/-- The window system keeps a side in a word. -/
def refusal? (width height : Int) : Option WindowError :=
  if ¬fitsLong width ∨ ¬fitsLong height then some .wideSize
  else if wrapWord width < 0 ∨ wrapWord height < 0 then some .negativeSize
  else if sideLimit < wrapWord width ∨ sideLimit < wrapWord height then some .largeSize
  else none

/-- The window system is asked for the size, and it may refuse. -/
def fit (window : Window) : Progress × Window :=
  match window.style.scale with
  | none => (.crashed (.window .noScale), window)
  | some scale =>
      let (width, height) := window.size scale
      let asked := window.act (.resize width height)
      match refusal? width height with
      | some error => (.crashed (.window error), asked)
      | none => (.running, { asked with surface := some (wrapWord width, wrapWord height) })

def setKey (window : Window) (key : PhysicalKey) (state : Bool) : Window :=
  match key.hex? with
  | some digit =>
      { window with
        session := { window.session with machine := window.session.machine.hold digit state } }
  | none => window

/-- The escape key closes the window, two keys are switches, and the other ones are held down. -/
def handle (window : Window) : WindowEvent → Option Window
  | .quit => none
  | .keyDown .escape => none
  | .keyDown (.character 'p') => some { window with paused := !window.paused }
  | .keyDown .f1 => some { window with overlaid := !window.overlaid }
  | .keyDown key => some (window.setKey key true)
  | .keyUp key => some (window.setKey key false)
  | .other => some window

/-- An event that closes the window drops the rest of its batch. -/
def handleAll (window : Window) : List WindowEvent → Bool × Window
  | [] => (true, window)
  | event :: rest =>
      match window.handle event with
      | some next => next.handleAll rest
      | none => (false, window)

/-- The overlay shows the counters, the timers and the registers in two rows of eight. -/
def overlayLines (machine : Machine) : List String :=
  let row (values : List UInt8) := " ".intercalate (values.map fun value =>
    Hex.padded 2 value.toNat)
  let values := machine.registers.cells.toList
  ["PC: 0x" ++ Hex.padded 3 machine.pc.toNat ++ "  I: 0x" ++ Hex.padded 3 machine.index.toNat,
   "DT: " ++ toString machine.timers.delay.toNat ++
     "  ST: " ++ toString machine.timers.sound.toNat,
   row (values.take 8), row (values.drop 8)]

/-- The image is made before it is compared with the surface, which it must fill. -/
def drawScaled (window : Window) (scale : Int) : Progress × Window :=
  let machine := window.session.machine
  match machine.display.image? window.arrays scale window.style.scheme.palette with
  | .error error => (.crashed (.picture error), window)
  | .ok image =>
      if window.surface = some (↑image.width, ↑image.height) then
        let shown := if window.overlaid then .overlay image (overlayLines machine)
          else .picture image
        (.running, window.act shown)
      else (.crashed (.window .wrongSize), window)

def draw (window : Window) : Progress × Window :=
  match window.style.scale with
  | some scale => window.drawScaled scale
  | none => (.crashed (.window .noScale), window)

/-- The cycles of a frame end early when one of them fails. -/
def cycles (session : Session) : Nat → Progress × Session
  | 0 => (.running, session)
  | count + 1 =>
      match session.cycle with
      | (.running, next) => cycles next count
      | stopped => stopped

/-- Without a number of cycles there is no frame. -/
def frameCycles (window : Window) : Progress × Session :=
  match window.style.cyclesPerFrame with
  | some count => cycles window.session count.toNat
  | none => (.crashed (.window .noCycles), window.session)

/-- A changed display or an overlay is drawn. -/
def refresh (window : Window) : Progress × Window :=
  let (frame?, machine) := window.session.machine.consumeFrame
  let seen : Window := { window with session := { window.session with machine := machine } }
  if frame?.isSome || seen.overlaid then seen.draw else (.running, seen)

/-- A changed mode resizes the window first. -/
def present (window : Window) (mode : Mode) : Progress × Window :=
  if window.session.machine.mode = mode then window.refresh
  else
    match window.fit with
    | (.crashed error, fitted) => (.crashed error, fitted)
    | (_, fitted) => fitted.refresh

/-- The frame of a machine that halts is still shown, and a frame that breaks off is not. -/
def animate (window : Window) : Progress × Window :=
  let mode := window.session.machine.mode
  let (progress, session) := window.frameCycles
  let next : Window := { window with session := session }
  match progress with
  | .crashed error => (.crashed error, next)
  | _ =>
      match next.present mode with
      | (.crashed error, shown) => (.crashed error, shown)
      | (_, shown) => (progress, shown)

/-- A paused window only waits for events, and a closed one halts. -/
def frame (window : Window) (events : List WindowEvent) : Progress × Window :=
  let (isOpen, next) := (window.act (.tick window.style.rate)).handleAll events
  if !isOpen then (.halted, next)
  else if next.paused then (.running, next)
  else next.animate

/-- After the last batch of events the window is asked to quit. -/
def frames (window : Window) : List (List WindowEvent) → Progress × Window
  | [] => window.frame [.quit]
  | events :: rest =>
      match window.frame events with
      | (.running, next) => next.frames rest
      | stopped => stopped

/-- The summary is written in any case, also when the run has broken off. -/
def animateAll (window : Window) (batches : List (List WindowEvent)) : Progress × Window :=
  let (start, session) := window.session.readWall
  let (progress, final) := { window with session := session }.frames batches
  (progress, { final with session := final.session.summarize start })

/-- Without a window there is nothing to sum up. -/
def run (window : Window) (batches : List (List WindowEvent)) : Progress × Window :=
  match window.fit with
  | (.crashed error, refused) => (.crashed error, refused)
  | (_, fitted) => fitted.animateAll batches

end Window

end Chip8
