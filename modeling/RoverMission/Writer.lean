/-
Writers.

A writer is what output goes to.  What stands behind it is left open: it has a
state, and handing it bytes or telling it to flush leads to another state, maybe
with the reason why it refused.  An `Output` is the writer that takes bytes until
its room is used up.
-/
import RoverMission.Fault

namespace RoverMission

structure Writer (σ : Type) where
  /-- Hand over bytes, all of which are to be taken. -/
  write : σ → List UInt8 → σ × Option IoFault
  flush : σ → σ × Option IoFault

namespace Writer

variable {σ : Type}

/-- Give up a buffer.  What it holds is handed over once more, and what becomes
of that is not asked. -/
def giveUp (w : Writer σ) (s : σ) (held : List UInt8) : σ :=
  match w.write s held with
  | (s, none) => (w.flush s).1
  | (s, some _) => s

/-- Flush behind a buffer that is empty by now, and once more when the buffer is
given up. -/
def close (w : Writer σ) (s : σ) : σ × Option IoFault :=
  let (s, cause) := w.flush s
  ((w.flush s).1, cause)

end Writer

/-- What an output has taken, and its room; `none` is room for everything. -/
structure Output where
  room : Option Nat
  taken : List UInt8 := []
  deriving DecidableEq

namespace Output

/-- Take the bytes that there is room for. -/
def write (o : Output) (bytes : List UInt8) : Output × Option IoFault :=
  match o.room with
  | none => ({ o with taken := o.taken ++ bytes }, none)
  | some room =>
    ({ room := some (room - bytes.length), taken := o.taken ++ bytes.take room },
      if bytes.length ≤ room then none else some .outputFull)

def writer : Writer Output where
  write := write
  flush o := (o, none)

end Output
end RoverMission
