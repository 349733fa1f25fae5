import Indi.Base.LilXml

/-!
# The device registry

`INDI::BaseDevice` and its private part: the property list `pAll`, the bound device
name, the watch table, the mediator and the message log. Each member function returns
its result, the device after it, and the events it caused in order: lock operations
on `m_Lock`, callbacks, mediator notifications, log lines and allocator calls.
-/

set_option autoImplicit false

namespace Indi

/-!
## Events
-/

/-! The events are what a device does that others see: the mediator's callbacks, the
mutex taken and released, and the buffers written. A watch callback is named by the
index it was registered under. -/

/-- A call of an `INDI::BaseMediator` method. -/
inductive Notification where
  | newProperty (name : String)
  | newNumber (name : String)
  | newSwitch (name : String)
  | newText (name : String)
  | newLight (name : String)
  /-- `newBLOB(widget)`, with the widget's name, or `none` for a null pointer. -/
  | newBLOB (widget : Option String)
  | newMessage (index : Nat)
  deriving DecidableEq, Repr

/-- A call of the allocator or of the shared-buffer library, with the origin of the
pointer it is given (`none` for a null pointer). -/
inductive MemoryCall where
  | malloc
  | realloc (argument : Option Origin)
  | free (argument : Option Origin)
  /-- `IDSharedBlobFree`. -/
  | sharedFree (argument : Option Origin)
  /-- `attachBlobByUid`. -/
  | attach (id : String)
  deriving DecidableEq, Repr

/-- What a member function does on the way, in order. -/
inductive Event where
  | lock
  | unlock
  /-- The watch callback registered under `callback` runs for the property `name`. -/
  | watch (name : String) (callback : Nat)
  /-- `emitUpdate()` runs the property's update callback. -/
  | emitUpdate (name : String)
  | notify (notification : Notification)
  /-- `IDLog`. -/
  | log (line : String)
  | memory (call : MemoryCall)
  deriving DecidableEq, Repr

namespace Event

/-- Events that run code the device does not control. -/
def isCallback : Event → Bool
  | .watch _ _ | .emitUpdate _ | .notify _ => true
  | _ => false

/-- `lock` and `unlock`. -/
def isLockOp : Event → Bool
  | .lock | .unlock => true
  | _ => false

def isWatch : Event → Bool
  | .watch _ _ => true
  | _ => false

/-- An event that neither takes nor releases `m_Lock` nor runs a watch. -/
def Plain (event : Event) : Prop :=
  event.isLockOp = false ∧ event.isWatch = false

end Event

/-- The `lock_guard` of one locked section. -/
def locked : List Event := [.lock, .unlock]

/-!
## The device
-/

/-- `INDI::BaseDevice` with its `BaseDevicePrivate`. -/
structure BaseDevice where
  deviceName : String
  pAll : List Property
  /-- `watchPropertyMap`: the callback registered for a name. -/
  watchPropertyMap : String → Option Nat
  /-- Whether a mediator is set. -/
  mediator : Bool
  messageLog : List String

/-- What a member function returns, the device after it, and its events. -/
structure Outcome (α : Type) where
  result : α
  device : BaseDevice
  events : List Event

/-- A return code with the text written to `errmsg`, if any. -/
structure Reply where
  code : Code
  errmsg : Option String
  deriving DecidableEq, Repr

namespace BaseDevice

/-- A device that holds nothing: no name, properties, watches, mediator or messages. -/
def empty : BaseDevice where
  deviceName := ""
  pAll := []
  watchPropertyMap := fun _ => none
  mediator := false
  messageLog := []

/-!
## Lookup
-/

/-! `getProperty` skips entries of another type (unless `INDI_UNKNOWN` is asked for)
and unregistered entries; `getPropertyState` and `getPropertyPermission` scan
`getProperties()`, a copy taken without the lock, and skip neither. -/

/-- The test of `getProperty`'s loop. -/
def matchesLookup (name : String) (type : PropertyType) (property : Property) : Bool :=
  (type == property.getType || type == .unknown) && property.registered &&
    property.isNameMatch name

/-- `BaseDevice::getProperty`, under `m_Lock` (events `locked`). -/
def getProperty (device : BaseDevice) (name : String) (type : PropertyType := .unknown) :
    Option Property :=
  device.pAll.find? (matchesLookup name type)

/-- `BaseDevice::getPropertyState`. -/
def getPropertyState (device : BaseDevice) (name : String) : IPState :=
  match device.pAll.find? (·.isNameMatch name) with
  | some property => property.state
  | none => .idle

/-- `BaseDevice::getPropertyPermission`. -/
def getPropertyPermission (device : BaseDevice) (name : String) : IPerm :=
  match device.pAll.find? (·.isNameMatch name) with
  | some property => property.permission
  | none => .ro

theorem getProperty_eq_none_iff {device : BaseDevice} {name : String} {type : PropertyType} :
    device.getProperty name type = none ↔
      ∀ property ∈ device.pAll, matchesLookup name type property = false := by
  simp [getProperty]

theorem registered_of_matchesLookup {name : String} {type : PropertyType} {property : Property}
    (selected : matchesLookup name type property = true) : property.registered = true := by
  simp only [matchesLookup, Bool.and_eq_true] at selected
  exact selected.1.2

theorem getProperty_mem {device : BaseDevice} {name : String} {type : PropertyType}
    {property : Property} (found : device.getProperty name type = some property) :
    property ∈ device.pAll ∧ matchesLookup name type property = true :=
  ⟨List.mem_of_find?_eq_some found, List.find?_some found⟩

/-!
## Insertion and removal
-/

/-- `BaseDevicePrivate::addProperty`: append under the lock, then run the watch
callback of the name, if any. -/
def addProperty (device : BaseDevice) (property : Property) : BaseDevice × List Event :=
  ({ device with pAll := device.pAll ++ [property] },
    locked ++ (device.watchPropertyMap property.name).toList.map (.watch property.name))

/-- The common tail of both `registerProperty` overloads: look the name up at `type`;
mark the match registered through the handle, or append the property. -/
def registerAt (device : BaseDevice) (property : Property) (type : PropertyType) :
    BaseDevice × List Event :=
  match device.getProperty property.name type with
  | some _ =>
      ({ device with
          pAll := updateFirst (matchesLookup property.name type)
            (fun entry => { entry with registered := true }) device.pAll },
        locked)
  | none =>
      let added := device.addProperty property
      (added.1, locked ++ added.2)

/-- `BaseDevice::registerProperty(INDI::Property &)`; `none` is an invalid handle,
whose type is `INDI_UNKNOWN`. -/
def registerProperty (device : BaseDevice) (property : Option Property) :
    BaseDevice × List Event :=
  match property with
  | none => (device, [])
  | some property =>
      if property.getType = .unknown then (device, [])
      else device.registerAt property property.getType

/-- `BaseDevice::registerProperty(void *, INDI_PROPERTY_TYPE)`: `vector` is the
wrapper `INDI::Property(p, type)`, `none` for a null `p`. -/
def registerPropertyRaw (device : BaseDevice) (vector : Option Property)
    (type : PropertyType) : BaseDevice × List Event :=
  match vector with
  | none => (device, [])
  | some property =>
      if type = .unknown then (device, []) else device.registerAt property type

theorem registerProperty_cases (device : BaseDevice) (property : Option Property) :
    device.registerProperty property = (device, []) ∨
      ∃ found, device.registerProperty property = device.registerAt found found.getType := by
  unfold registerProperty
  split
  · exact .inl rfl
  · split
    · exact .inl rfl
    · exact .inr ⟨_, rfl⟩

theorem addProperty_fst (device : BaseDevice) (property : Property) :
    (device.addProperty property).1 = { device with pAll := device.pAll ++ [property] } := rfl

theorem addProperty_watches (device : BaseDevice) (property : Property) :
    (device.addProperty property).2.filter Event.isWatch =
      (device.watchPropertyMap property.name).toList.map (.watch property.name) := by
  cases found : device.watchPropertyMap property.name <;> simp [addProperty, locked, Event.isWatch, found]

theorem updateFirst_markRegistered (name : String) (type : PropertyType) (pAll : List Property) :
    updateFirst (matchesLookup name type) (fun entry => { entry with registered := true }) pAll =
      pAll :=
  updateFirst_eq_self _ _ (fun entry selected => by
    have registered := registered_of_matchesLookup selected
    cases entry
    simp_all) pAll

theorem registerAt_cases (device : BaseDevice) (property : Property) (type : PropertyType) :
    (device.getProperty property.name type ≠ none ∧ device.registerAt property type = (device, locked)) ∨
    (device.getProperty property.name type = none ∧
      device.registerAt property type =
        ((device.addProperty property).1, locked ++ (device.addProperty property).2)) := by
  unfold registerAt
  cases found : device.getProperty property.name type with
  | none => exact .inr ⟨rfl, rfl⟩
  | some _ => exact .inl ⟨by simp, by rw [updateFirst_markRegistered]⟩

/-- `BaseDevice::removeProperty`: erase every entry of the name under the lock. -/
def removeProperty (device : BaseDevice) (name : String) : Outcome Reply :=
  if device.pAll.any (·.isNameMatch name) then
    ⟨⟨.ok, none⟩, { device with pAll := device.pAll.filter (!·.isNameMatch name) }, locked⟩
  else
    ⟨⟨.propertyInvalid,
        some ("Error: Property " ++ name ++ " not found in device " ++ device.deviceName ++ ".")⟩,
      device, locked⟩

theorem removeProperty_device (device : BaseDevice) (name : String) :
    (device.removeProperty name).device =
      { device with pAll := device.pAll.filter (!·.isNameMatch name) } := by
  unfold removeProperty
  split
  · rfl
  · rename_i absent
    simp only [List.any_eq_true, not_exists, not_and, Bool.not_eq_true] at absent
    rw [List.filter_eq_self.mpr (by simpa using absent)]

theorem removeProperty_events (device : BaseDevice) (name : String) :
    (device.removeProperty name).events = locked := by
  unfold removeProperty; split <;> rfl

/-- `BaseDevice::watchProperty`: `watchPropertyMap[name] = callback`. -/
def watchProperty (device : BaseDevice) (name : String) (callback : Nat) : BaseDevice :=
  { device with
      watchPropertyMap := fun key => if key = name then some callback else device.watchPropertyMap key }

/-!
## Messages
-/

/-- `BaseDevice::addMessage`: append under the lock, then tell the mediator the index
`messageLog.size() - 1`, read after the unlock. -/
def addMessage (device : BaseDevice) (message : String) : Outcome Unit :=
  let appended := { device with messageLog := device.messageLog ++ [message] }
  ⟨(), appended,
    locked ++ if device.mediator then [.notify (.newMessage (appended.messageLog.length - 1))] else []⟩

theorem addMessage_device (device : BaseDevice) (message : String) :
    (device.addMessage message).device =
      { device with messageLog := device.messageLog ++ [message] } := rfl

theorem addMessage_events (device : BaseDevice) (message : String) :
    (device.addMessage message).events =
      locked ++ if device.mediator then [.notify (.newMessage device.messageLog.length)] else [] := by
  simp [addMessage]

/-- `BaseDevice::doMessage`: prefix the element's timestamp, or the host's, print into
`msgBuffer[MAXRBUF]`, and log. -/
def doMessage (host : Host) (device : BaseDevice) (message : Node) : Outcome Unit :=
  match message.getAttribute "message" with
  | none => ⟨(), device, []⟩
  | some text =>
      let stamp := (message.getAttribute "timestamp").getD host.timestamp
      device.addMessage (fit host.capacities.message (stamp ++ ": " ++ text ++ " "))

/-- `BaseDevice::checkMessage`. -/
def checkMessage (host : Host) (device : BaseDevice) (root : Node) : Outcome Unit :=
  match root.getAttribute "message" with
  | none => ⟨(), device, []⟩
  | some _ => device.doMessage host root

theorem checkMessage_cases (host : Host) (device : BaseDevice) (root : Node) :
    device.checkMessage host root = ⟨(), device, []⟩ ∨
      ∃ message, device.checkMessage host root = device.addMessage message := by
  unfold checkMessage doMessage
  cases root.getAttribute "message" with
  | none => exact .inl rfl
  | some text => exact .inr ⟨_, rfl⟩

theorem doMessage_cases (host : Host) (device : BaseDevice) (message : Node) :
    device.doMessage host message = ⟨(), device, []⟩ ∨
      ∃ text, device.doMessage host message = device.addMessage text := by
  unfold doMessage
  cases message.getAttribute "message" with
  | none => exact .inl rfl
  | some text => exact .inr ⟨_, rfl⟩

/-- `BaseDevice::messageQueue`, under the lock; `none` where the assertion fails. -/
def messageQueue (device : BaseDevice) (index : Nat) : Option String :=
  device.messageLog.get? index

/-- `BaseDevice::lastMessage`, under the lock; `none` where the assertion fails. -/
def lastMessage (device : BaseDevice) : Option String :=
  device.messageLog.getLast?

end BaseDevice

end Indi
