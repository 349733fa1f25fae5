import Indi.Base.Run

/-!
# The message log

A message reaches the log by `addMessage`, directly or through `doMessage`. `setValue`
calls `checkMessage` on its element once the element has a name, before it looks at the
vector, so an update logs its message whatever becomes of the vector; `buildProp` never
calls it. Over every run the log is the log before it followed by the line each call
logs, in call order: no message is lost, repeated or reordered, and the lines depend
on the calls alone.
-/

set_option autoImplicit false

namespace Indi

/-- The line `doMessage` logs for an element: its timestamp, or the host's, then its
`message` attribute, cut to `MAXRBUF - 1` bytes; none without one. -/
def Node.messageLine (host : Host) (node : Node) : Option String :=
  (node.getAttribute "message").map fun text =>
    fit host.capacities.message ((node.getAttribute "timestamp").getD host.timestamp ++ ": " ++ text ++ " ")

/-- The line a call logs: an update with a name logs its element's message, `doMessage`
and `checkMessage` their element's, and `addMessage` its text; no other call logs. -/
def Call.loggedLine (host : Host) : Call → Option String
  | .setValue root _ => (root.getAttribute "name").bind fun _ => root.toNode.messageLine host
  | .doMessage message => message.messageLine host
  | .checkMessage root => root.messageLine host
  | .addMessage message => some message
  | _ => none

namespace BaseDevice

theorem doMessage_messageLog (host : Host) (device : BaseDevice) (message : Node) :
    (device.doMessage host message).device.messageLog = device.messageLog ++ (message.messageLine host).toList := by
  unfold doMessage Node.messageLine
  cases message.getAttribute "message" <;> simp [addMessage_device]

theorem checkMessage_messageLog (host : Host) (device : BaseDevice) (root : Node) :
    (device.checkMessage host root).device.messageLog = device.messageLog ++ (root.messageLine host).toList := by
  unfold checkMessage doMessage Node.messageLine
  cases root.getAttribute "message" <;> simp [addMessage_device]

theorem registerAt_messageLog (device : BaseDevice) (property : Property) (type : PropertyType) :
    (device.registerAt property type).1.messageLog = device.messageLog := by
  unfold registerAt
  split <;> rfl

theorem updateWidgets_messageLog (host : Host) (device : BaseDevice) (root : Element) (name : String)
    (type : PropertyType) (property : Property) (allocator : List Bool) :
    (device.updateWidgets host root name type property allocator).device.messageLog = device.messageLog := by
  rcases updateWidgets_device host device root name type property allocator with wrote | ⟨_, -, wrote⟩ <;>
    rw [wrote]
  rfl

theorem setValue_messageLog (host : Host) (device : BaseDevice) (root : Element) (allocator : List Bool) :
    (device.setValue host root allocator).device.messageLog =
      device.messageLog ++ ((Call.setValue root allocator).loggedLine host).toList := by
  cases named : root.getAttribute "name" with
  | none => simp [setValue, named, Call.loggedLine]
  | some name =>
      simp only [Call.loggedLine, named, Option.some_bind, ← checkMessage_messageLog host device root.toNode,
        setValue]
      split
      · rfl
      · split
        · rfl
        · split
          · rfl
          · exact updateWidgets_messageLog host _ root name _ _ allocator

theorem step_messageLog (host : Host) (device : BaseDevice) (call : Call) :
    (device.step host call).1.messageLog = device.messageLog ++ (call.loggedLine host).toList := by
  cases call with
  | buildProp root isDynamic => simpa [Call.loggedLine] using (buildProp_header host device root isDynamic).2.2.1
  | setValue root allocator => exact setValue_messageLog host device root allocator
  | registerProperty vector | registerVector vector =>
      rw [step_register host device vector (by simp)]
      rcases registerProperty_cases device vector with same | ⟨found, same⟩
      · simp [same, Call.loggedLine]
      · simp [same, registerAt_messageLog, Call.loggedLine]
  | removeProperty name => simp [step, removeProperty_device, Call.loggedLine]
  | doMessage message => exact doMessage_messageLog host device message
  | checkMessage root => exact checkMessage_messageLog host device root
  | addMessage message => rfl
  | _ => simp [step, watchProperty, Call.loggedLine]

/-- Over every run the log grows by the line each call logs, in call order: updates,
`doMessage` and `checkMessage` log their element's `message`, `addMessage` its text, and
`buildProp` nothing; `lastMessage` reports the last line. -/
theorem message_log_records_each_call (host : Host) (calls : List Call) :
    ∀ device : BaseDevice,
      (device.run host calls).1.messageLog = device.messageLog ++ calls.filterMap (Call.loggedLine host) ∧
      (device.run host calls).1.lastMessage = (calls.filterMap (Call.loggedLine host)).getLast?.or device.lastMessage := by
  induction calls with
  | nil => intro device; simp
  | cons call calls ih =>
      intro device
      have logged : (device.run host (call :: calls)).1.messageLog =
          device.messageLog ++ (call :: calls).filterMap (Call.loggedLine host) := by
        rw [run_cons, (ih _).1, step_messageLog, List.filterMap_cons]
        cases call.loggedLine host <;> simp
      exact ⟨logged, by rw [lastMessage, logged, List.getLast?_append]; rfl⟩

end BaseDevice

def announcedDefinition : Element where
  tag := "defNumberVector"
  attributes := [("device", "D"), ("name", "FOO"), ("perm", "rw"), ("state", "Idle"), ("message", "defined")]
  context := ""
  children := [{ tag := "defNumber", attributes := [("name", "x")], context := "1" }]

def announcedUpdate : Element where
  tag := "setNumberVector"
  attributes := [("device", "D"), ("name", "FOO"), ("state", "Bogus"), ("message", "updated")]
  context := ""
  children := [{ tag := "oneNumber", attributes := [("name", "x")], context := "2" }]

/-- The definition's message is dropped; the update's is logged though its state is
rejected. -/
example : (BaseDevice.empty.run Host.cLocale [.buildProp announcedDefinition false,
    .setValue announcedUpdate []]).1.messageLog = ["2026-11-08T00:00:00: updated "] := by decide

end Indi
