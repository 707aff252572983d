/-
Computations that report events.

`Logged α` is a value with the events reported on the way to it, in order.
`Attempt α` may fail with a fault instead; the events before the fault stay.
-/
import RoverMission.Event

namespace RoverMission

structure Logged (α : Type) where
  value : α
  events : List Event

namespace Logged

instance : Monad Logged where
  pure a := ⟨a, []⟩
  bind x f :=
    let y := f x.value
    ⟨y.value, x.events ++ y.events⟩

def record (e : Event) : Logged Unit := ⟨(), [e]⟩

variable {α β : Type}

@[simp] theorem value_pure (a : α) : (pure a : Logged α).value = a := rfl

@[simp] theorem events_pure (a : α) : (pure a : Logged α).events = [] := rfl

@[simp] theorem value_bind (x : Logged α) (f : α → Logged β) :
    (x >>= f).value = (f x.value).value := rfl

@[simp] theorem events_bind (x : Logged α) (f : α → Logged β) :
    (x >>= f).events = x.events ++ (f x.value).events := rfl

@[simp] theorem events_record (e : Event) : (record e).events = [e] := rfl

instance : LawfulMonad Logged := LawfulMonad.mk' Logged
  (by intro α x; cases x; simp [Functor.map])
  (by intro α β x f; simp [Bind.bind, Pure.pure])
  (by intro α β γ x f g; simp [Bind.bind])

end Logged

abbrev Attempt (α : Type) := ExceptT Fault Logged α

namespace Attempt

variable {α : Type}

def ofExcept (x : Except Fault α) : Attempt α := ExceptT.mk (pure x)

def record (e : Event) : Attempt Unit := ExceptT.lift (Logged.record e)

/-- What an attempt came to. -/
def result (x : Attempt α) : Except Fault α := x.run.value

def events (x : Attempt α) : List Event := x.run.events

end Attempt
end RoverMission
