/-
What attempts come to.

An attempt in steps comes to what its last step comes to, unless a step before
it fails.  The events of its steps follow each other, up to those of the step that
fails.
-/
import RoverMission.Logged

namespace RoverMission
namespace Attempt

variable {α β : Type}

theorem result_pure (a : α) : result (pure a) = .ok a := rfl

theorem result_lift (x : Logged α) : result (ExceptT.lift x) = .ok x.value := rfl

theorem result_throw (fault : Fault) : result (throw fault : Attempt α) = .error fault := rfl

theorem result_record (e : Event) : (record e).result = .ok () := rfl

theorem result_bind_ok {x : Attempt α} {a : α} (h : x.result = .ok a) (f : α → Attempt β) :
    (x >>= f).result = (f a).result := by
  show (ExceptT.bindCont f x.result : Logged _).value = _
  rw [h]
  rfl

theorem result_bind_error {x : Attempt α} {fault : Fault} (h : x.result = .error fault)
    (f : α → Attempt β) : (x >>= f).result = .error fault := by
  show (ExceptT.bindCont f x.result : Logged _).value = _
  rw [h]
  rfl

theorem events_pure (a : α) : events (pure a) = [] := rfl

theorem events_lift (x : Logged α) : events (ExceptT.lift x) = x.events := List.append_nil _

theorem events_throw (fault : Fault) : events (throw fault : Attempt α) = [] := rfl

theorem events_record (e : Event) : (record e).events = [e] := List.append_nil _

theorem events_bind_ok {x : Attempt α} {a : α} (h : x.result = .ok a) (f : α → Attempt β) :
    (x >>= f).events = x.events ++ (f a).events := by
  show x.events ++ (ExceptT.bindCont f x.result : Logged _).events = _
  rw [h]
  rfl

theorem events_bind_error {x : Attempt α} {fault : Fault} (h : x.result = .error fault)
    (f : α → Attempt β) : (x >>= f).events = x.events := by
  show x.events ++ (ExceptT.bindCont f x.result : Logged _).events = _
  rw [h]
  exact List.append_nil _

end Attempt
end RoverMission
