import Indi.Base.RegistryProperties

/-!
# Device-name binding

`buildProp` binds an empty device name to the element's `device` attribute once the
element has passed `crackDN`, the tag check and the duplicate check, whether or not a
widget survives and a property is appended. Only `setDeviceName` changes a bound name,
and `buildProp` never compares the element's `device` attribute with it.
-/

set_option autoImplicit false

namespace Indi

open BaseDevice

/-!
## Where the name changes
-/

/-! The step lemma says which calls can change the name and what they bind it to; the
run lemma follows from it. -/

theorem step_deviceName (host : Host) (device : BaseDevice) (call : Call)
    (changed : (device.step host call).1.deviceName ≠ device.deviceName) :
    (∃ name, call = .setDeviceName name) ∨
    (device.deviceName = "" ∧ ∃ root isDynamic, call = .buildProp root isDynamic ∧
      crackDN root.toNode = true ∧ (defTagType root.tag).isSome ∧
      device.getProperty (valueText (root.getAttribute "name")) = none ∧
      (device.step host call).1.deviceName = valueText (root.getAttribute "device")) := by
  by_cases keeps : call.keepsHeader = true
  · exact absurd (congrArg (·.1) (step_header host device call keeps)) changed
  cases call with
  | buildProp root isDynamic =>
      rcases (buildProp_header host device root isDynamic).2.2.2 with
        same | ⟨checked, tagged, absent, bound⟩
      · exact absurd same changed
      · rw [bindName_deviceName] at bound
        by_cases empty : device.deviceName = ""
        · simp only [empty, if_true] at bound
          exact .inr ⟨empty, root, isDynamic, rfl, checked, tagged, absent, bound⟩
        · simp only [empty, if_false] at bound
          exact absurd bound changed
  | watchProperty _ _ | setMediator _ => exact absurd rfl changed
  | setDeviceName name => exact .inl ⟨name, rfl⟩
  | _ => exact absurd rfl keeps

theorem step_keeps_bound_name (host : Host) (device : BaseDevice) (call : Call)
    (keeps : ∀ name, call ≠ .setDeviceName name) (bound : device.deviceName ≠ "") :
    (device.step host call).1.deviceName = device.deviceName := by
  by_contra changed
  rcases step_deviceName host device call changed with ⟨name, named⟩ | ⟨empty, -⟩
  · exact keeps name named
  · exact bound empty

/-!
## What a rejected definition leaves
-/

theorem buildProp_rejected_device (host : Host) (device : BaseDevice) (root : Element)
    (isDynamic : Bool) (rejected : (device.buildProp host root isDynamic).result.code ≠ .ok) :
    (device.buildProp host root isDynamic).device = device := by
  rcases buildProp_cases host device root isDynamic with
    ⟨same, -⟩ | ⟨same, -⟩ | ⟨_, _, -, -, -, -, accepted, -⟩
  · exact same
  · exact same
  · exact absurd accepted rejected

/-!
## The `device` attribute
-/

/-! Once the name is bound, `bindName` is the identity, and `buildProp` reads the
`device` attribute only through `crackDN`'s test that it is present. `setValue` never
reads it. -/

/-- Two elements that differ at most in the value of the attribute `key`. -/
structure Element.AgreeExcept (key : String) (first second : Element) : Prop where
  tag : first.tag = second.tag
  context : first.context = second.context
  children : first.children = second.children
  attributes : ∀ other, other ≠ key → first.getAttribute other = second.getAttribute other

theorem crackDN_congr {first second : Element} (agree : first.AgreeExcept "device" second)
    (present : (first.getAttribute "device").isSome = (second.getAttribute "device").isSome) :
    crackDN first.toNode = crackDN second.toNode := by
  simp only [crackDN, present, agree.attributes "name" (by decide)]

theorem defWidgets_congr (host : Host) {first second : Element}
    (sameChildren : first.children = second.children) (type : PropertyType) :
    defWidgets host first type = defWidgets host second type := by
  cases type <;> simp [defWidgets, definedWidgets, Element.getElementsByTagName, sameChildren]

theorem definedProperty_congr (host : Host) {first second : Element}
    (agree : first.AgreeExcept "device" second) (type : PropertyType) (deviceName : String)
    (isDynamic : Bool) (widgets : Widgets) :
    definedProperty host first type deviceName isDynamic widgets =
      definedProperty host second type deviceName isDynamic widgets := by
  simp only [definedProperty, Node.fitted, agree.attributes "name" (by decide),
    agree.attributes "label" (by decide), agree.attributes "group" (by decide),
    agree.attributes "perm" (by decide), agree.attributes "state" (by decide),
    agree.attributes "timeout" (by decide)]

theorem buildProp_device_attribute_ignored (host : Host) (device : BaseDevice)
    (bound : device.deviceName ≠ "") {first second : Element}
    (agree : first.AgreeExcept "device" second)
    (present : (first.getAttribute "device").isSome = (second.getAttribute "device").isSome)
    (isDynamic : Bool) :
    device.buildProp host first isDynamic = device.buildProp host second isDynamic := by
  simp only [buildProp, defineProperty, crackDN_congr agree present, agree.tag,
    agree.attributes "name" (by decide), bindName_of_ne_empty bound,
    defWidgets_congr host agree.children, definedProperty_congr host agree]

section Update

variable {first second : Element} (agree : first.AgreeExcept "device" second)
include agree

theorem checkMessage_congr (host : Host) (device : BaseDevice) :
    device.checkMessage host first.toNode = device.checkMessage host second.toNode := by
  simp only [checkMessage, doMessage, agree.attributes "message" (by decide),
    agree.attributes "timestamp" (by decide)]

theorem loadPayload_congr (host : Host) (element : Node) (allocator : List Bool) (size : Int)
    (widget : BlobWidget) :
    loadPayload host first element allocator size widget =
      loadPayload host second element allocator size widget := by
  simp only [loadPayload, inlineBase64, agree.context]

theorem setBLOBChildren_congr (host : Host) (mediator : Bool) (deviceName propertyName : String)
    (elements : List Node) (state : BlobState) :
    setBLOBChildren host mediator deviceName propertyName first elements state =
      setBLOBChildren host mediator deviceName propertyName second elements state := by
  induction elements generalizing state with
  | nil => rfl
  | cons element rest ih =>
      simp only [setBLOBChildren, oneBLOB, loadPayload_congr agree, ih]

theorem updateWidgets_congr (host : Host) (device : BaseDevice) (name : String)
    (type : PropertyType) (property : Property) (allocator : List Bool) :
    device.updateWidgets host first name type property allocator =
      device.updateWidgets host second name type property allocator := by
  simp only [updateWidgets, setBLOB, Element.getElementsByTagName, Element.getElements,
    agree.children, setBLOBChildren_congr agree]

theorem setValue_device_attribute_ignored (host : Host) (device : BaseDevice)
    (allocator : List Bool) :
    device.setValue host first allocator = device.setValue host second allocator := by
  simp only [setValue, agree.tag, agree.attributes "name" (by decide),
    agree.attributes "state" (by decide), agree.attributes "timeout" (by decide),
    checkMessage_congr agree, updateWidgets_congr agree]

end Update

/-!
## The binding law
-/

/-- A bound device name changes only by `setDeviceName`, or by a `buildProp` on an empty
name past its checks; a failed `buildProp` changes nothing, and once the name is bound
the `device` attribute of a definition or an update does not matter. -/
theorem device_name_binding (host : Host) :
    (∀ (device : BaseDevice) (calls : List Call), (∀ call ∈ calls, ∀ name, call ≠ .setDeviceName name) →
      device.deviceName ≠ "" → (device.run host calls).1.deviceName = device.deviceName) ∧
    (∀ (device : BaseDevice) (call : Call), (device.step host call).1.deviceName ≠ device.deviceName →
      (∃ name, call = .setDeviceName name) ∨
      (device.deviceName = "" ∧ ∃ root isDynamic, call = .buildProp root isDynamic ∧
        crackDN root.toNode = true ∧ (defTagType root.tag).isSome ∧
        device.getProperty (valueText (root.getAttribute "name")) = none ∧
        (device.step host call).1.deviceName = valueText (root.getAttribute "device"))) ∧
    (∀ (device : BaseDevice) root isDynamic, (device.buildProp host root isDynamic).result.code ≠ .ok →
      (device.buildProp host root isDynamic).device = device) ∧
    (∀ (device : BaseDevice) (first second : Element) isDynamic, device.deviceName ≠ "" →
      first.AgreeExcept "device" second →
      (first.getAttribute "device").isSome = (second.getAttribute "device").isSome →
      device.buildProp host first isDynamic = device.buildProp host second isDynamic) ∧
    (∀ (device : BaseDevice) (first second : Element) allocator, first.AgreeExcept "device" second →
      device.setValue host first allocator = device.setValue host second allocator) :=
  ⟨fun device calls keeps bound =>
      run_preserves host (fun call => ∀ name, call ≠ .setDeviceName name)
        (fun after => after.deviceName = device.deviceName) (fun current call keepsName same => by
          rw [← same] at bound ⊢
          exact step_keeps_bound_name host current call keepsName bound)
        device calls keeps rfl,
    step_deviceName host, buildProp_rejected_device host,
    fun device _ _ isDynamic bound agree present =>
      buildProp_device_attribute_ignored host device bound agree present isDynamic,
    fun device _ _ allocator agree => setValue_device_attribute_ignored agree host device allocator⟩

theorem definitions_for_two_devices_agree :
    (BaseDevice.empty.run Host.cLocale [.buildProp (numberDefinition "A" "FOO") false]).1.buildProp
        Host.cLocale (numberDefinition "A" "BAR") false =
      (BaseDevice.empty.run Host.cLocale [.buildProp (numberDefinition "A" "FOO") false]).1.buildProp
        Host.cLocale (numberDefinition "B" "BAR") false :=
  (device_name_binding Host.cLocale).2.2.2.1 _ _ _ false (by decide)
    ⟨rfl, rfl, rfl, fun other different => by
      simp [numberDefinition, Node.getAttribute, List.lookup_cons, beq_false_of_ne different]⟩
    rfl

/-- A device bound to `A` accepts, with result 0, the definition of a second property
for device `B`, and appends it. -/
theorem definition_for_another_device_accepted :
    (BaseDevice.empty.run Host.cLocale [.buildProp (numberDefinition "A" "FOO") false]).1.deviceName = "A" ∧
    ((BaseDevice.empty.run Host.cLocale [.buildProp (numberDefinition "A" "FOO") false]).1.buildProp
        Host.cLocale (numberDefinition "B" "BAR") false).result.code = .ok ∧
    ((BaseDevice.empty.run Host.cLocale [.buildProp (numberDefinition "A" "FOO") false]).1.buildProp
        Host.cLocale (numberDefinition "B" "BAR") false).device.pAll.length = 2 := by
  decide

end Indi
