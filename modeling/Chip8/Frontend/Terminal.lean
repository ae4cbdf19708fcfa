import Chip8.Picture
import Chip8.Session

/-!
This file shows a run as text on a terminal.
-/

namespace Chip8.Terminal

/-- Each frame starts at the top left corner of the terminal. -/
def frame (display : Display) : String := "\x1b[1;1H" ++ display.text "*" " " ++ "\n"

/-- The text holds one frame after the other. -/
def output (playback : Playback) : String := String.join (playback.frames.map frame)

/-- The loop counts its cycles and goes on below the limit. Without a limit it goes on as long as
the patience lasts. -/
def loop (limit? : Option Int) (session : Session) (steps : Int) (shown : List Display) :
    (patience : Nat) → Playback
  | 0 => ⟨shown.reverse, .running, session⟩
  | patience + 1 =>
      if limit?.all fun limit => decide (steps < limit) then
        match session.turn with
        | (.running, frame?, next) => loop limit? next (steps + 1) (frame?.toList ++ shown) patience
        | (ending, _, next) => ⟨shown.reverse, ending, next⟩
      else ⟨shown.reverse, .running, session⟩

/-- The patience is no shorter than the limit. -/
def run (session : Session) (limit? : Option Int) (patience : Nat) : Playback :=
  session.timed fun session => loop limit? session 0 [] (max patience (limit?.getD 0).toNat)

end Chip8.Terminal
