import Chip8.Proofs.Effect

/-!
This file sorts the effects of all instructions into five kinds, and each kind names the fields
that it may change.
-/

namespace Chip8.Machine

/-- An instruction works on the registers and the memory, calls, returns, draws or switches the
mode. The keypad and the last reading stay in every case. -/
inductive Change (machine : Machine) : Machine → Prop where
  | work (key : RandomKey) (memory : Memory) (pc index : UInt16) (registers : Registers)
      (delay sound : UInt8) :
      Change machine { machine with
        key := key
        memory := memory
        pc := pc
        index := index
        registers := registers
        timers := ⟨delay, sound, machine.timers.last⟩ }
  | call (stack : CallStack) (pc : UInt16)
      (pushed : machine.stack.push machine.pc = .ok stack) :
      Change machine { machine with stack := stack, pc := pc }
  | back (stack : CallStack) (address : UInt16)
      (popped : machine.stack.pop machine.pc.toNat = .ok (address, stack)) :
      Change machine { machine with stack := stack, pc := address }
  | picture (display : Display) (registers : Registers)
      (width : display.width = machine.display.width)
      (height : display.height = machine.display.height) :
      Change machine { machine with display := display, registers := registers, redraw := true }
  | hires : Change machine machine.enterHires

variable [RandomLibrary] {machine next : Machine} {instruction : Instruction}

/-- The effect of an instruction is of one of the five kinds. -/
theorem Effect.change (effect : machine.Effect instruction next) : machine.Change next := by
  cases effect with
  | call address stack pc pushed => exact .call stack pc pushed
  | back stack address popped => exact .back stack address popped
  | clear clears => exact .picture machine.display.cleared machine.registers rfl rfl
  | draw x y height => exact .picture _ _ rfl rfl
  | hires enters => exact .hires
  | nothing | registers | memory | counter | index | delay | sound | random =>
      exact .work _ _ _ _ _ _ _

theorem apply_change (applied : machine.apply instruction = .ok next) : machine.Change next :=
  (apply_effect applied).change

end Chip8.Machine
