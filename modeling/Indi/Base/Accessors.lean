import Indi.Base.UpdateIdempotence

/-!
# The connection and driver accessors

`isConnected` reads the `CONNECT` switch of the `CONNECTION` vector and the vector's
state; `getDriverName`, `getDriverExec`, `getDriverVersion` and `getDriverInterface`
read a text of `DRIVER_INFO`. On a client, these properties are written by the
server's updates only, so `isConnected` reports what the last update of `CONNECTION`
left: the `CONNECT` switch as the update's last `CONNECT` child set it, and the update's
state.
-/

set_option autoImplicit false

namespace Indi

open BaseDevice

def Widgets.switches : Widgets → List SwitchWidget
  | .switch widgets => widgets
  | _ => []

def Widgets.texts : Widgets → List TextWidget
  | .text widgets => widgets
  | _ => []

namespace BaseDevice

/-- `BaseDevice::isConnected`: `getSwitch(CONNECTION)`, its widget `CONNECT`, which is on,
and the vector's state, `Ok`. -/
def isConnected (device : BaseDevice) : Bool :=
  match device.getProperty "CONNECTION" .switch with
  | none => false
  | some svp =>
      match svp.widgets.switches.find? (·.name == "CONNECT") with
      | none => false
      | some sp => sp.state == .on && svp.state == .ok

/-- The text of the widget `widgetName` of `getText("DRIVER_INFO")`, `none` for a null
pointer: what the four driver accessors read. -/
def driverInfo (device : BaseDevice) (widgetName : String) : Option String :=
  (device.getProperty "DRIVER_INFO" .text).bind fun info =>
    (info.widgets.texts.find? (·.name == widgetName)).map (·.text)

/-- `BaseDevice::getDriverName`. -/
def getDriverName (device : BaseDevice) : Option String :=
  device.driverInfo "DRIVER_NAME"

/-- `BaseDevice::getDriverExec`. -/
def getDriverExec (device : BaseDevice) : Option String :=
  device.driverInfo "DRIVER_EXEC"

/-- `BaseDevice::getDriverVersion`. -/
def getDriverVersion (device : BaseDevice) : Option String :=
  device.driverInfo "DRIVER_VERSION"

/-- `BaseDevice::getDriverInterface`: `atoi` of the text, returned as a `uint16_t`; `0`
without one. -/
def getDriverInterface (device : BaseDevice) : UInt16 :=
  match device.driverInfo "DRIVER_INTERFACE" with
  | none => 0
  | some text => UInt16.ofNat (toInt (some text) % 65536).toNat

/-- `BaseDevice::getDeviceName`. -/
def getDeviceName (device : BaseDevice) : String :=
  device.deviceName

/-- `BaseDevice::isDeviceNameMatch`. -/
def isDeviceNameMatch (device : BaseDevice) (otherName : String) : Bool :=
  device.deviceName == otherName

end BaseDevice

/-!
## What an update leaves in a widget
-/

theorem find?_updateFirst_name {α : Type} (nameOf : α → String) (f : α → α)
    (keeps : ∀ item, nameOf (f item) = nameOf item) (written target : String) (items : List α) :
    (updateFirst (nameOf · == written) f items).find? (nameOf · == target) =
      if written = target then (items.find? (nameOf · == target)).map f
      else items.find? (nameOf · == target) := by
  induction items with
  | nil => split <;> rfl
  | cons head tail ih =>
      by_cases selected : nameOf head = written
      · by_cases same : written = target
        · simp [updateFirst_cons, selected, same, keeps]
        · simp [updateFirst_cons, selected, same, keeps, Ne.symm same]
      · by_cases named : nameOf head = target
        · have other : written ≠ target := fun same => selected (named.trans same.symm)
          simp [updateFirst_cons, selected, named, other, Ne.symm other]
        · simp [updateFirst_cons, selected, named, ih]

theorem find?_forProperty {α : Type} (nameOf : α → String) (apply : Node → α → α)
    (keeps : ∀ element item, nameOf (apply element item) = nameOf item) (target : String)
    (elements : List Node) (widgets : List α) :
    (forProperty nameOf apply elements widgets).find? (nameOf · == target) =
      (widgets.find? (nameOf · == target)).map fun widget =>
        (elements.filter fun element => valueText (element.getAttribute "name") == target).foldl
          (fun item element => apply element item) widget := by
  induction elements generalizing widgets with
  | nil => simp [forProperty]
  | cons element elements ih =>
      have rest := ih (updateFirst (nameOf · == valueText (element.getAttribute "name")) (apply element) widgets)
      rw [find?_updateFirst_name nameOf (apply element) (keeps element)] at rest
      simp only [forProperty, List.foldl_cons] at rest ⊢
      rw [rest]
      by_cases named : valueText (element.getAttribute "name") = target
      · simp [named, Option.map_map, Function.comp_def]
      · simp [named]

/-!
## `isConnected` after an update of `CONNECTION`
-/

theorem setValue_of_found (host : Host) (device : BaseDevice) (root : Element) (allocator : List Bool)
    {name : String} {type : PropertyType} {property : Property}
    (named : root.getAttribute "name" = some name) (tagged : setTagType root.tag = some type)
    (found : device.getProperty name type = some property)
    (stated : ((root.getAttribute "state").bind crackIPState).isSome)
    (scalar : property.widgets.type ≠ .blob) :
    ∃ timeout, (device.setValue host root allocator).device =
      (device.checkMessage host root.toNode).device.writeProperty name type
        { property with
          state := toIPState host (root.getAttribute "state")
          timeout := timeout
          widgets := property.widgets.forProperty host root.getElements } := by
  obtain ⟨valid, parsed⟩ := Option.isSome_iff_exists.mp stated
  have checkedFound := (getProperty_checkMessage host device root.toNode name type).trans found
  unfold setValue
  simp only [named, tagged, checkedFound, parsed]
  split_ifs <;> rw [updateWidgets_scalar _ _ _ _ _ _ _ (by exact scalar)] <;> exact ⟨_, rfl⟩

/-- After a `CONNECTION` update with a valid state, `isConnected` tells whether `CONNECT`
is on and the state is `Ok`; without that switch it stays false. -/
theorem isConnected_follows_connection_update (host : Host) (device : BaseDevice) (root : Element)
    (allocator : List Bool) (named : root.getAttribute "name" = some "CONNECTION")
    (switches : root.tag = "setSwitchVector") (stated : ((root.getAttribute "state").bind crackIPState).isSome) :
    (device.setValue host root allocator).device.isConnected =
      match device.getProperty "CONNECTION" .switch with
      | none => false
      | some connection =>
          match connection.widgets.switches.find? (·.name == "CONNECT") with
          | none => false
          | some connect =>
              ((root.getElements.filter fun element => valueText (element.getAttribute "name") == "CONNECT").foldl
                  (fun widget element => oneSwitch host element widget) connect).state == .on &&
                toIPState host (root.getAttribute "state") == .ok := by
  have tagged : setTagType root.tag = some .switch := by rw [switches]; rfl
  cases found : device.getProperty "CONNECTION" .switch with
  | none =>
      have unchanged : (device.setValue host root allocator).device = (device.checkMessage host root.toNode).device := by
        unfold setValue
        simp only [named, tagged, getProperty_checkMessage, found]
      rw [unchanged, isConnected, getProperty_checkMessage, found]
  | some connection =>
      obtain ⟨-, selected⟩ := getProperty_mem found
      obtain ⟨switchWidgets, kind⟩ : ∃ widgets, connection.widgets = .switch widgets := by
        simp only [matchesLookup, Property.getType, Bool.and_eq_true, Bool.or_eq_true, beq_iff_eq] at selected
        rcases selected with ⟨⟨typed | unknown, -⟩, -⟩
        · cases widgets : connection.widgets <;> simp [widgets, Widgets.type] at typed
          exact ⟨_, rfl⟩
        · cases unknown
      obtain ⟨timeout, wrote⟩ := setValue_of_found host device root allocator named tagged found stated
        (by rw [kind]; simp [Widgets.type])
      have shape : ({ connection with
          state := toIPState host (root.getAttribute "state")
          timeout := timeout
          widgets := connection.widgets.forProperty host root.getElements } : Property).shape = connection.shape := by
        simp [Property.shape, Property.getType, Widgets.type_forProperty]
      have stillSelected := (matchesLookup_of_shape shape "CONNECTION" .switch).trans selected
      rw [wrote, isConnected, getProperty_writeProperty ((getProperty_checkMessage _ _ _ _ _).trans found) stillSelected]
      simp only [kind, Widgets.forProperty, Widgets.switches]
      rw [find?_forProperty SwitchWidget.name (oneSwitch host) (fun _ _ => rfl)]
      cases switchWidgets.find? (·.name == "CONNECT") <;> rfl

def connectionDefinition : Element where
  tag := "defSwitchVector"
  attributes := [("device", "D"), ("name", "CONNECTION"), ("perm", "rw"), ("state", "Idle"), ("rule", "OneOfMany")]
  context := ""
  children := [{ tag := "defSwitch", attributes := [("name", "CONNECT")], context := "Off" },
    { tag := "defSwitch", attributes := [("name", "DISCONNECT")], context := "On" }]

def connectionUpdate : Element where
  tag := "setSwitchVector"
  attributes := [("device", "D"), ("name", "CONNECTION"), ("state", "Ok")]
  context := ""
  children := [{ tag := "oneSwitch", attributes := [("name", "CONNECT")], context := "On" },
    { tag := "oneSwitch", attributes := [("name", "DISCONNECT")], context := "Off" }]

example : (BaseDevice.empty.run Host.cLocale [.buildProp connectionDefinition false,
    .setValue connectionUpdate []]).1.isConnected = true := by decide

/-- A client that received the definition of `CONNECTION`, then the update that
connects. -/
theorem connection_update_connects :
    connectionUpdate.getAttribute "name" = some "CONNECTION" ∧ connectionUpdate.tag = "setSwitchVector" ∧
    ((connectionUpdate.getAttribute "state").bind crackIPState).isSome = true ∧
    ((BaseDevice.empty.run Host.cLocale [.buildProp connectionDefinition false]).1.setValue Host.cLocale
        connectionUpdate []).device.isConnected =
      match (BaseDevice.empty.run Host.cLocale [.buildProp connectionDefinition false]).1.getProperty
          "CONNECTION" .switch with
      | none => false
      | some connection =>
          match connection.widgets.switches.find? (·.name == "CONNECT") with
          | none => false
          | some connect =>
              ((connectionUpdate.getElements.filter fun element =>
                  valueText (element.getAttribute "name") == "CONNECT").foldl
                (fun widget element => oneSwitch Host.cLocale element widget) connect).state == .on &&
                toIPState Host.cLocale (connectionUpdate.getAttribute "state") == .ok :=
  ⟨rfl, rfl, by decide, isConnected_follows_connection_update Host.cLocale _ connectionUpdate [] rfl rfl (by decide)⟩

end Indi
