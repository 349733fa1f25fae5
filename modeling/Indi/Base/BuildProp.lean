import Indi.Base.Device
import Mathlib.Data.String.Basic

/-!
# Definitions

`BaseDevice::buildProp`: a `defXxxVector` element becomes a new property of the
element's kind. The element is checked for its `device` and `name` attributes, its
tag and a registered property of its name; the widgets are read child by child.
-/

set_option autoImplicit false

namespace Indi

/-!
## Tags and widgets
-/

/-! One loop per kind in the sources; here one loop with the kind's reader. A widget
whose name is empty is dropped. -/

/-- Modelled from the spec: `crackDN` (`indicom.c`), spec §4.4 step 1: the element
carries a `device` and a `name` attribute. Its `errmsg` text is not modelled. -/
def crackDN (root : Node) : Bool :=
  (root.getAttribute "device").isSome && (root.getAttribute "name").isSome

/-- `buildProp`'s `tagTypeName` table. -/
def defTagType : String → Option PropertyType
  | "defNumberVector" => some .number
  | "defSwitchVector" => some .switch
  | "defTextVector" => some .text
  | "defLightVector" => some .light
  | "defBLOBVector" => some .blob
  | _ => none

/-- One widget loop of `buildProp`: a widget per child of the tag, in document order,
keeping those whose name is not empty. -/
def definedWidgets {α : Type} (root : Element) (tag : String) (build : Node → α)
    (nameOf : α → String) : List α :=
  ((root.getElementsByTagName tag).map build).filter (nameOf · != "")

/-- A stored name, label or format: the attribute's text cut to the array. -/
def Node.fitted (node : Node) (size : Nat) (key : String) : String :=
  fit size (valueText (node.getAttribute key))

namespace Host

variable (host : Host) (element : Node)

/-- A `defNumber` child; the value is read as sexagesimal. -/
def defNumber : NumberWidget where
  name := element.fitted host.capacities.name "name"
  label := element.fitted host.capacities.label "label"
  format := element.fitted host.capacities.format "format"
  min := toDouble host.decimalPoint (element.getAttribute "min")
  max := toDouble host.decimalPoint (element.getAttribute "max")
  step := toDouble host.decimalPoint (element.getAttribute "step")
  value := toDoubleSexa element.context

def defSwitch : SwitchWidget where
  name := element.fitted host.capacities.name "name"
  label := element.fitted host.capacities.label "label"
  state := toISState host (some element.context)

def defText : TextWidget where
  name := element.fitted host.capacities.name "name"
  label := element.fitted host.capacities.label "label"
  text := element.context

def defLight : LightWidget where
  name := element.fitted host.capacities.name "name"
  label := element.fitted host.capacities.label "label"
  state := toIPState host (some element.context)

/-- A `defBLOB` child: no data until an update brings some. -/
def defBLOB : BlobWidget where
  name := element.fitted host.capacities.name "name"
  label := element.fitted host.capacities.label "label"
  format := element.fitted host.capacities.blobFormat "format"
  blob := none
  blobLen := 0
  size := 0

end Host

/-- The `switch` of `buildProp` over the tag's type. -/
def defWidgets (host : Host) (root : Element) : PropertyType → Option Widgets
  | .number => some (.number (definedWidgets root "defNumber" host.defNumber (·.name)))
  | .switch => some (.switch (definedWidgets root "defSwitch" host.defSwitch (·.name)))
  | .text => some (.text (definedWidgets root "defText" host.defText (·.name)))
  | .light => some (.light (definedWidgets root "defLight" host.defLight (·.name)))
  | .blob => some (.blob (definedWidgets root "defBLOB" host.defBLOB (·.name)))
  | .unknown => none

/-- The property `buildProp` hands to `addProperty`. It starts as the zeroed
`PropertyXxx {0}`; a Light keeps its zero permission `IP_RO`. Modelled from the spec:
a property populated by a wire definition is registered (§3). -/
def definedProperty (host : Host) (root : Element) (type : PropertyType)
    (deviceName : String) (isDynamic : Bool) (widgets : Widgets) : Property where
  name := root.fitted host.capacities.name "name"
  label := root.fitted host.capacities.label "label"
  group := root.fitted host.capacities.group "group"
  device := fit host.capacities.device deviceName
  permission := if type = .light then .ro else toIPerm host (root.getAttribute "perm")
  state := toIPState host (root.getAttribute "state")
  timeout := toDouble host.decimalPoint (root.getAttribute "timeout")
  registered := true
  dynamic := isDynamic
  widgets := widgets

namespace BaseDevice

/-- The device-name binding of `buildProp`: an empty name takes the element's. -/
def bindName (device : BaseDevice) (name : String) : BaseDevice :=
  if device.deviceName.isEmpty then { device with deviceName := name } else device

/-!
## `buildProp`
-/

/-- The part of `buildProp` after its duplicate check found nothing: bind the name, read
the widgets and append. Its events follow those of the check. -/
def defineProperty (host : Host) (device : BaseDevice) (root : Element) (isDynamic : Bool)
    (type : PropertyType) : Outcome Reply :=
  let bound := device.bindName (valueText (root.getAttribute "device"))
  match defWidgets host root type with
  | none => ⟨⟨.error, none⟩, bound, []⟩
  | some widgets =>
      if widgets.names.isEmpty then
        ⟨⟨.ok, none⟩, bound,
          [.log (valueText (root.getAttribute "name") ++ ": " ++ root.tag ++ " with no valid members\n")]⟩
      else
        let property := definedProperty host root type bound.deviceName isDynamic widgets
        let added := bound.addProperty property
        ⟨⟨.ok, none⟩, added.1,
          added.2 ++ if device.mediator then [.notify (.newProperty property.name)] else []⟩

/-- `BaseDevice::buildProp`. -/
def buildProp (host : Host) (device : BaseDevice) (root : Element) (isDynamic : Bool) :
    Outcome Reply :=
  if !crackDN root.toNode then ⟨⟨.error, none⟩, device, []⟩
  else
    match defTagType root.tag with
    | none => ⟨⟨.error, some ("INDI: <" ++ root.tag ++ "> Unable to process tag")⟩, device, []⟩
    | some type =>
        if (device.getProperty (valueText (root.getAttribute "name"))).isSome then
          ⟨⟨.propertyDuplicated, none⟩, device, locked⟩
        else
          let defined := device.defineProperty host root isDynamic type
          { defined with events := locked ++ defined.events }

theorem defTagType_ne_unknown {tag : String} {type : PropertyType}
    (found : defTagType tag = some type) : type ≠ .unknown := by
  unfold defTagType at found
  split at found <;> cases found <;> decide

theorem defWidgets_isSome (host : Host) (root : Element) {type : PropertyType}
    (known : type ≠ .unknown) : (defWidgets host root type).isSome := by
  cases type <;> simp_all [defWidgets]

theorem defWidgets_type {host : Host} {root : Element} {type : PropertyType} {widgets : Widgets}
    (built : defWidgets host root type = some widgets) : widgets.type = type := by
  cases type <;> simp only [defWidgets, Option.some.injEq, reduceCtorEq] at built <;> subst built <;> rfl

@[simp] theorem bindName_pAll (device : BaseDevice) (name : String) :
    (device.bindName name).pAll = device.pAll := by
  unfold bindName; split <;> rfl

@[simp] theorem bindName_watchPropertyMap (device : BaseDevice) (name : String) :
    (device.bindName name).watchPropertyMap = device.watchPropertyMap := by
  unfold bindName; split <;> rfl

@[simp] theorem bindName_messageLog (device : BaseDevice) (name : String) :
    (device.bindName name).messageLog = device.messageLog := by
  unfold bindName; split <;> rfl

@[simp] theorem bindName_mediator (device : BaseDevice) (name : String) :
    (device.bindName name).mediator = device.mediator := by
  unfold bindName; split <;> rfl

theorem bindName_deviceName (device : BaseDevice) (name : String) :
    (device.bindName name).deviceName = if device.deviceName = "" then name else device.deviceName := by
  unfold bindName
  by_cases empty : device.deviceName = "" <;> simp [empty, String.isEmpty_iff]

theorem bindName_of_ne_empty {device : BaseDevice} (bound : device.deviceName ≠ "") (name : String) :
    device.bindName name = device := by
  simp [bindName, String.isEmpty_iff, bound]

theorem defineProperty_pAll (host : Host) (device : BaseDevice) (root : Element)
    (isDynamic : Bool) {type : PropertyType} {widgets : Widgets}
    (built : defWidgets host root type = some widgets) :
    (device.defineProperty host root isDynamic type).device.pAll =
      device.pAll ++ if widgets.names.isEmpty then [] else
        [definedProperty host root type
          (device.bindName (valueText (root.getAttribute "device"))).deviceName isDynamic widgets] := by
  unfold defineProperty
  simp only [built]
  split <;> simp [addProperty_fst]

theorem buildProp_cases (host : Host) (device : BaseDevice) (root : Element) (isDynamic : Bool) :
    let outcome := device.buildProp host root isDynamic
    let name := valueText (root.getAttribute "name")
    let bound := device.bindName (valueText (root.getAttribute "device"))
    (outcome.device = device ∧ outcome.events = [] ∧ outcome.result.code = .error ∧
      (crackDN root.toNode = false ∨ defTagType root.tag = none)) ∨
    (outcome.device = device ∧ outcome.events = locked ∧ outcome.result.code = .propertyDuplicated ∧
      crackDN root.toNode = true ∧ (defTagType root.tag).isSome ∧ device.getProperty name ≠ none) ∨
    (∃ type widgets, crackDN root.toNode = true ∧ defTagType root.tag = some type ∧
      device.getProperty name = none ∧ defWidgets host root type = some widgets ∧
      outcome.result.code = .ok ∧
      ((widgets.names = [] ∧ outcome.device = bound ∧
          outcome.events = locked ++ [.log (name ++ ": " ++ root.tag ++ " with no valid members\n")]) ∨
       (widgets.names ≠ [] ∧
          outcome.device =
            (bound.addProperty (definedProperty host root type bound.deviceName isDynamic widgets)).1 ∧
          outcome.events = locked ++
            (bound.addProperty (definedProperty host root type bound.deviceName isDynamic widgets)).2 ++
            if device.mediator then
              [.notify (.newProperty (definedProperty host root type bound.deviceName isDynamic widgets).name)]
            else []))) := by
  intro outcome name bound
  by_cases checked : crackDN root.toNode = true
  · cases tagged : defTagType root.tag with
    | none => exact .inl (by simp [outcome, buildProp, checked, tagged])
    | some type =>
        cases found : device.getProperty name with
        | some _ =>
            exact .inr (.inl (by simp_all [outcome, name, buildProp]))
        | none =>
            obtain ⟨widgets, built⟩ :=
              Option.isSome_iff_exists.mp (defWidgets_isSome host root (defTagType_ne_unknown tagged))
            refine .inr (.inr ⟨type, widgets, checked, rfl, rfl, built, ?_⟩)
            by_cases noWidgets : widgets.names = [] <;>
              simp_all [outcome, name, bound, buildProp, defineProperty]
  · exact .inl (by simp_all [outcome, buildProp])

theorem buildProp_header (host : Host) (device : BaseDevice) (root : Element) (isDynamic : Bool) :
    let after := (device.buildProp host root isDynamic).device
    after.watchPropertyMap = device.watchPropertyMap ∧ after.mediator = device.mediator ∧
    after.messageLog = device.messageLog ∧
    (after.deviceName = device.deviceName ∨
      crackDN root.toNode = true ∧ (defTagType root.tag).isSome ∧
        device.getProperty (valueText (root.getAttribute "name")) = none ∧
        after.deviceName = (device.bindName (valueText (root.getAttribute "device"))).deviceName) := by
  intro after
  rcases buildProp_cases host device root isDynamic with
    ⟨same, -⟩ | ⟨same, -⟩ |
      ⟨type, widgets, checked, tagged, absent, -, -, ⟨-, same, -⟩ | ⟨-, same, -⟩⟩ <;>
    simp only [after, same, addProperty_fst, bindName_watchPropertyMap, bindName_mediator,
      bindName_messageLog, true_and, true_or, and_true]
  all_goals exact .inr ⟨checked, by simp [tagged], absent⟩

end BaseDevice

end Indi
