import Indi.Base.BuildProp
import Indi.Base.SetValue

/-!
# Runs of a device

The calls a client, a driver or a callback can make on one `BaseDevice`, one step per
call, and runs as sequences of calls. A step returns the device after the call and
the events of the call; a run concatenates them.
-/

set_option autoImplicit false

namespace Indi

/-- A call of a public member of `BaseDevice`. -/
inductive Call where
  | buildProp (root : Element) (isDynamic : Bool)
  /-- `setValue`, with the outcomes of the allocations it makes. -/
  | setValue (root : Element) (allocator : List Bool)
  /-- `registerProperty(INDI::Property &)`. -/
  | registerProperty (property : Option Property)
  /-- `registerProperty(IXxxVectorProperty *)`, which passes the vector's own type to
  the `void *` overload. -/
  | registerVector (vector : Option Property)
  | removeProperty (name : String)
  | watchProperty (name : String) (callback : Nat)
  | addMessage (message : String)
  | doMessage (message : Node)
  | checkMessage (root : Node)
  /-- `getProperty` and its typed wrappers `getNumber`, `getSwitch`, .... -/
  | getProperty (name : String) (type : PropertyType)
  | getPropertyState (name : String)
  | getPropertyPermission (name : String)
  | messageQueue (index : Nat)
  | lastMessage
  | setDeviceName (name : String)
  | setMediator (present : Bool)

/-- The calls that keep the device name, the watches and the mediator. -/
def Call.keepsHeader : Call → Bool
  | .buildProp _ _ | .watchProperty _ _ | .setDeviceName _ | .setMediator _ => false
  | _ => true

namespace BaseDevice

def step (host : Host) (device : BaseDevice) : Call → BaseDevice × List Event
  | .buildProp root isDynamic =>
      let outcome := device.buildProp host root isDynamic
      (outcome.device, outcome.events)
  | .setValue root allocator =>
      let outcome := device.setValue host root allocator
      (outcome.device, outcome.events)
  | .registerProperty property => device.registerProperty property
  | .registerVector vector =>
      device.registerPropertyRaw vector ((vector.map Property.getType).getD .unknown)
  | .removeProperty name =>
      let outcome := device.removeProperty name
      (outcome.device, outcome.events)
  | .watchProperty name callback => (device.watchProperty name callback, [])
  | .addMessage message =>
      let outcome := device.addMessage message
      (outcome.device, outcome.events)
  | .doMessage message =>
      let outcome := device.doMessage host message
      (outcome.device, outcome.events)
  | .checkMessage root =>
      let outcome := device.checkMessage host root
      (outcome.device, outcome.events)
  | .getProperty _ _ => (device, locked)
  | .getPropertyState _ => (device, [])
  | .getPropertyPermission _ => (device, [])
  | .messageQueue _ => (device, locked)
  | .lastMessage => (device, locked)
  | .setDeviceName name => ({ device with deviceName := name }, [])
  | .setMediator present => ({ device with mediator := present }, [])

def run (host : Host) (device : BaseDevice) : List Call → BaseDevice × List Event
  | [] => (device, [])
  | call :: calls =>
      let first := device.step host call
      let rest := first.1.run host calls
      (rest.1, first.2 ++ rest.2)

@[simp] theorem run_nil (host : Host) (device : BaseDevice) : device.run host [] = (device, []) := rfl

theorem run_cons (host : Host) (device : BaseDevice) (call : Call) (calls : List Call) :
    device.run host (call :: calls) =
      ((device.step host call).1.run host calls |>.1,
        (device.step host call).2 ++ ((device.step host call).1.run host calls).2) := rfl

theorem step_register (host : Host) (device : BaseDevice) (vector : Option Property) {call : Call}
    (registers : call = .registerProperty vector ∨ call = .registerVector vector) :
    device.step host call = device.registerProperty vector := by
  rcases registers with rfl | rfl
  · rfl
  · cases vector <;> rfl

theorem run_preserves (host : Host) (allowed : Call → Prop) (holds : BaseDevice → Prop)
    (preserved : ∀ device call, allowed call → holds device → holds (device.step host call).1)
    (device : BaseDevice) (calls : List Call) (admissible : ∀ call ∈ calls, allowed call)
    (start : holds device) : holds (device.run host calls).1 := by
  induction calls generalizing device with
  | nil => exact start
  | cons call calls ih =>
      exact ih _ (fun other member => admissible other (List.mem_cons_of_mem call member))
        (preserved device call (admissible call (List.mem_cons_self call calls)) start)

/-!
## What a call keeps
-/

/-! Only `buildProp`, `watchProperty`, `setDeviceName` and `setMediator` touch the
device name, the watches or the mediator. -/

/-- The device name, the watches and the mediator. -/
def header (device : BaseDevice) : String × (String → Option Nat) × Bool :=
  (device.deviceName, device.watchPropertyMap, device.mediator)

theorem message_frame {device : BaseDevice} {outcome : Outcome Unit}
    (either : outcome = ⟨(), device, []⟩ ∨ ∃ message, outcome = device.addMessage message) :
    outcome.device.pAll = device.pAll ∧ outcome.device.header = device.header := by
  rcases either with rfl | ⟨message, rfl⟩ <;> exact ⟨rfl, rfl⟩

theorem registerAt_header (device : BaseDevice) (property : Property) (type : PropertyType) :
    (device.registerAt property type).1.header = device.header := by
  rcases registerAt_cases device property type with ⟨-, same⟩ | ⟨-, same⟩ <;> rw [same]
  rfl

theorem step_header (host : Host) (device : BaseDevice) (call : Call)
    (keeps : call.keepsHeader = true) : (device.step host call).1.header = device.header := by
  cases call with
  | setValue root allocator =>
      obtain ⟨name, watches, mediator, -⟩ := setValue_frame host device root allocator
      simp only [step, header, name, watches, mediator]
  | registerProperty vector | registerVector vector =>
      rw [step_register host device vector (by simp)]
      rcases registerProperty_cases device vector with same | ⟨property, same⟩ <;> rw [same]
      exact registerAt_header device property _
  | removeProperty name => simp only [step, removeProperty_device]; rfl
  | doMessage message => exact (message_frame (doMessage_cases host device message)).2
  | checkMessage root => exact (message_frame (checkMessage_cases host device root)).2
  | buildProp _ _ | watchProperty _ _ | setDeviceName _ | setMediator _ => cases keeps
  | _ => rfl

end BaseDevice

end Indi
