import Chip8.Session

/-!
This file runs a machine without showing anything.
-/

namespace Chip8.Headless

def message (frames : Nat) : String := toString frames ++ " frames drawn"

/-- The report ends with the number of frames. -/
def report (playback : Playback) : Playback :=
  match playback.ending with
  | .crashed _ => playback
  | _ =>
      let logger := playback.session.logger.log .info (message playback.frames.length)
      { playback with session := { playback.session with logger := logger } }

/-- A negative count runs nothing. -/
def run (session : Session) (count : Int) : Playback := report (session.play count.toNat)

end Chip8.Headless
