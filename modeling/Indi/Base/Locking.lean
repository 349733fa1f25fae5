import Indi.Base.Run

/-!
# Lock discipline

`m_Lock` is a non-recursive mutex. Every call takes it only around a scan or a change
of `pAll` or `messageLog`, and runs the watch, update and mediator callbacks after it
has let it go. A callback that calls back into the device never finds the lock held by
its own thread.
-/

set_option autoImplicit false

namespace Indi

open BaseDevice

/-!
## The discipline
-/

/-! A trace is read from a free lock: `lock` needs it free, `unlock` held, and a
callback free. -/

/-- The lock after one event from `held`; `none` when the event takes the lock while it
is held, lets it go while it is free, or runs a callback while it is held. -/
def Event.lockStep : Bool → Event → Option Bool
  | false, .lock => some true
  | true, .unlock => some false
  | true, .lock | false, .unlock => none
  | held, event => if held && event.isCallback then none else some held

/-- Whether the lock is held after `events`, from `held`; `none` once an event breaks
the discipline. -/
def lockAfter (held : Bool) : List Event → Option Bool
  | [] => some held
  | event :: rest => (event.lockStep held).bind (lockAfter · rest)

/-- Read from a free lock, the trace breaks no rule and leaves the lock free. -/
def Disciplined (events : List Event) : Prop :=
  lockAfter false events = some false

instance : DecidablePred Disciplined := fun events =>
  inferInstanceAs (Decidable (lockAfter false events = some false))

theorem lockAfter_append (held : Bool) (first second : List Event) :
    lockAfter held (first ++ second) = (lockAfter held first).bind (lockAfter · second) := by
  induction first generalizing held with
  | nil => rfl
  | cons event rest ih => simp only [List.cons_append, lockAfter, List.append_eq, ih, Option.bind_assoc]

theorem lockStep_of_isCallback {event : Event} (callback : event.isCallback = true) (held : Bool) :
    event.lockStep held = if held then none else some false := by
  cases event <;> cases held <;> first | rfl | cases callback

theorem Disciplined.append {first second : List Event} (firstOk : Disciplined first)
    (secondOk : Disciplined second) : Disciplined (first ++ second) := by
  unfold Disciplined at *
  rw [lockAfter_append, firstOk]
  exact secondOk

theorem disciplined_locked : Disciplined locked := rfl

theorem disciplined_of_lockFree {events : List Event}
    (free : ∀ event ∈ events, event.isLockOp = false) : Disciplined events := by
  induction events with
  | nil => rfl
  | cons event rest ih =>
      have stays : event.lockStep false = some false := by
        have plain := free event (List.mem_cons_self event rest)
        cases event <;> first | rfl | cases plain
      simp only [Disciplined, lockAfter, stays, Option.some_bind]
      exact ih fun other member => free other (List.mem_cons_of_mem event member)

theorem disciplined_locked_append {tail : List Event}
    (free : ∀ event ∈ tail, event.isLockOp = false) : Disciplined (locked ++ tail) :=
  disciplined_locked.append (disciplined_of_lockFree free)

/-!
## Every call
-/

/-! One lemma per operation, from its spec lemma; `step` then collects them. -/

theorem disciplined_addProperty (device : BaseDevice) (property : Property) :
    Disciplined (device.addProperty property).2 :=
  disciplined_locked_append (by simp [Event.isLockOp])

theorem disciplined_addMessage (device : BaseDevice) (message : String) :
    Disciplined (device.addMessage message).events := by
  rw [addMessage_events]
  exact disciplined_locked_append (by split <;> simp [Event.isLockOp])

theorem disciplined_message {device : BaseDevice} {outcome : Outcome Unit}
    (either : outcome = ⟨(), device, []⟩ ∨ ∃ message, outcome = device.addMessage message) :
    Disciplined outcome.events := by
  rcases either with rfl | ⟨message, rfl⟩
  · rfl
  · exact disciplined_addMessage device message

theorem disciplined_registerAt (device : BaseDevice) (property : Property) (type : PropertyType) :
    Disciplined (device.registerAt property type).2 := by
  rcases registerAt_cases device property type with ⟨-, same⟩ | ⟨-, same⟩ <;> rw [same]
  · exact disciplined_locked
  · exact disciplined_locked.append (disciplined_addProperty device property)

theorem disciplined_buildProp (host : Host) (device : BaseDevice) (root : Element) (isDynamic : Bool) :
    Disciplined (device.buildProp host root isDynamic).events := by
  rcases buildProp_cases host device root isDynamic with
    ⟨-, events, -⟩ | ⟨-, events, -⟩ |
      ⟨_, _, -, -, -, -, -, ⟨-, -, events⟩ | ⟨-, -, events⟩⟩ <;>
    rw [events]
  · rfl
  · exact disciplined_locked
  · exact disciplined_locked_append (by simp [Event.isLockOp])
  · exact (disciplined_locked.append (disciplined_addProperty _ _)).append
      (disciplined_of_lockFree (by split <;> simp [Event.isLockOp]))

theorem disciplined_setValue (host : Host) (device : BaseDevice) (root : Element)
    (allocator : List Bool) : Disciplined (device.setValue host root allocator).events := by
  have checked := disciplined_message (checkMessage_cases host device root.toNode)
  rcases setValue_events host device root allocator with same | same | ⟨tail, plain, same⟩ <;>
    rw [same]
  · rfl
  · exact checked
  · rw [List.append_assoc]
    exact checked.append (disciplined_locked_append fun event member => (plain event member).1)

theorem disciplined_step (host : Host) (device : BaseDevice) (call : Call) :
    Disciplined (device.step host call).2 := by
  cases call with
  | buildProp root isDynamic => exact disciplined_buildProp host device root isDynamic
  | setValue root allocator => exact disciplined_setValue host device root allocator
  | registerProperty vector | registerVector vector =>
      rw [step_register host device vector (by simp)]
      rcases registerProperty_cases device vector with same | ⟨property, same⟩ <;> rw [same]
      exacts [rfl, disciplined_registerAt device property _]
  | removeProperty name => simp only [step, removeProperty_events]; exact disciplined_locked
  | addMessage message => exact disciplined_addMessage device message
  | doMessage message => exact disciplined_message (doMessage_cases host device message)
  | checkMessage root => exact disciplined_message (checkMessage_cases host device root)
  | getProperty _ _ | messageQueue _ | lastMessage => exact disciplined_locked
  | _ => rfl

theorem disciplined_run (host : Host) (device : BaseDevice) (calls : List Call) :
    Disciplined (device.run host calls).2 := by
  induction calls generalizing device with
  | nil => rfl
  | cons call calls ih => exact (disciplined_step host device call).append (ih _)

/-!
## Callbacks that call back
-/

/-! A callback runs with the lock free, so what it does in the device is a trace of its
own read from a free lock; spliced in after the callback, it leaves the trace
disciplined, at any depth. -/

/-- The trace with what each callback does spliced in right after it. -/
def expand (nested : Event → List Event) : List Event → List Event
  | [] => []
  | event :: rest =>
      (if event.isCallback then event :: nested event else [event]) ++ expand nested rest

theorem lockAfter_expand (nested : Event → List Event)
    (nestedOk : ∀ event, Disciplined (nested event)) (held : Bool) (events : List Event)
    (final : Bool) (found : lockAfter held events = some final) :
    lockAfter held (expand nested events) = some final := by
  induction events generalizing held with
  | nil => exact found
  | cons event rest ih =>
      obtain ⟨next, stepped, restFound⟩ := Option.bind_eq_some.mp found
      by_cases callback : event.isCallback = true
      · rw [lockStep_of_isCallback callback] at stepped
        cases held <;> cases stepped
        have nestedDone : lockAfter false (nested event) = some false := nestedOk event
        simp only [expand, callback, if_true, List.cons_append, lockAfter,
          lockStep_of_isCallback callback, Bool.false_eq_true, if_false, Option.some_bind,
          List.append_eq, lockAfter_append, nestedDone]
        exact ih false restFound
      · simp only [expand, callback, Bool.false_eq_true, if_false, List.singleton_append, lockAfter,
          stepped, Option.some_bind]
        exact ih next restFound

theorem Disciplined.expand {events : List Event} (eventsOk : Disciplined events)
    {nested : Event → List Event} (nestedOk : ∀ event, Disciplined (nested event)) :
    Disciplined (Indi.expand nested events) :=
  lockAfter_expand nested nestedOk false events false eventsOk

/-- Every call runs its callbacks with `m_Lock` free and takes the lock only when it is
free, and so does every run; hence a callback may call back into the device, with any
calls on any state, and the whole trace still takes the lock only when it is free. -/
theorem no_callback_under_lock (host : Host) :
    (∀ (device : BaseDevice) (call : Call), Disciplined (device.step host call).2) ∧
    (∀ (device : BaseDevice) (calls : List Call), Disciplined (device.run host calls).2) ∧
    (∀ (device : BaseDevice) (call : Call) (reentry : Event → BaseDevice × List Call),
      Disciplined (expand (fun event => ((reentry event).1.run host (reentry event).2).2)
        (device.step host call).2)) :=
  ⟨disciplined_step host, disciplined_run host, fun device call _ =>
    (disciplined_step host device call).expand fun _ => disciplined_run host _ _⟩

end Indi
