import Indi.Base.Run

/-!
# Definition properties

What `buildProp` makes of a `defXxxVector` element. It appends at most one property,
after the entries already there, and appends one exactly when the element passes its
checks and keeps a widget. The widgets are the children of the kind's tag whose stored
name is not empty, in document order: their names are never empty, but nothing keeps
two of them from sharing one. The numbers are read with the host's decimal point.
-/

set_option autoImplicit false

namespace Indi

/-!
## Widget names
-/

/-- The child tag that each kind's widget loop in `buildProp` reads. -/
def widgetTag : PropertyType → String
  | .number => "defNumber"
  | .switch => "defSwitch"
  | .text => "defText"
  | .light => "defLight"
  | .blob => "defBLOB"
  | .unknown => ""

/-- The stored names of the children a widget loop reads, the empty ones dropped. -/
def memberNames (host : Host) (root : Element) (type : PropertyType) : List String :=
  ((root.getElementsByTagName (widgetTag type)).map (·.fitted host.capacities.name "name")).filter
    (· != "")

theorem definedWidgets_names {α : Type} (root : Element) (tag : String) (build : Node → α)
    (nameOf : α → String) :
    (definedWidgets root tag build nameOf).map nameOf =
      ((root.getElementsByTagName tag).map (nameOf ∘ build)).filter (· != "") := by
  simp only [definedWidgets, List.filter_map, List.map_map]
  rfl

theorem defWidgets_names {host : Host} {root : Element} {type : PropertyType} {widgets : Widgets}
    (built : defWidgets host root type = some widgets) : widgets.names = memberNames host root type := by
  cases type <;> simp only [defWidgets, Option.some.injEq, reduceCtorEq] at built <;> subst built <;>
    exact definedWidgets_names _ _ _ _

theorem ne_empty_of_mem_memberNames {host : Host} {root : Element} {type : PropertyType}
    {name : String} (member : name ∈ memberNames host root type) : name ≠ "" := by
  simp only [memberNames, List.mem_filter, bne_iff_ne] at member
  exact member.2

/-!
## The definition law
-/

/-- The elements from which `buildProp` defines a property on `device`: they pass
`crackDN`, carry a definition tag, name no registered property and keep a widget. -/
def definable (host : Host) (device : BaseDevice) (root : Element) : Bool :=
  crackDN root.toNode && (device.getProperty (valueText (root.getAttribute "name"))).isNone &&
    match defTagType root.tag with
    | some type => !(memberNames host root type).isEmpty
    | none => false

@[simp] theorem definedProperty_widgets (host : Host) (root : Element) (type : PropertyType)
    (deviceName : String) (isDynamic : Bool) (widgets : Widgets) :
    (definedProperty host root type deviceName isDynamic widgets).widgets = widgets := rfl

/-- What a definition element says of the property made from it, under the bound device
name. -/
structure Property.DefinedBy (host : Host) (root : Element) (isDynamic : Bool) (deviceName : String)
    (property : Property) : Prop where
  tagged : defTagType root.tag = some property.getType
  names : property.widgets.names = memberNames host root property.getType
  named : property.name = root.fitted host.capacities.name "name"
  device : property.device = fit host.capacities.device deviceName
  registered : property.registered = true
  dynamic : property.dynamic = isDynamic

theorem Property.DefinedBy.name_ne_empty {host : Host} {root : Element} {isDynamic : Bool}
    {deviceName : String} {property : Property} (defined : property.DefinedBy host root isDynamic deviceName)
    {name : String} (member : name ∈ property.widgets.names) : name ≠ "" :=
  ne_empty_of_mem_memberNames (defined.names ▸ member)

/-- `buildProp` keeps the registry when the element is not definable, and otherwise
appends one property, the one the element describes. -/
theorem buildProp_defines (host : Host) (device : BaseDevice) (root : Element) (isDynamic : Bool) :
    (definable host device root = false ∧
        (device.buildProp host root isDynamic).device.pAll = device.pAll) ∨
    (definable host device root = true ∧ ∃ property,
        (device.buildProp host root isDynamic).device.pAll = device.pAll ++ [property] ∧
        property.DefinedBy host root isDynamic (device.buildProp host root isDynamic).device.deviceName) := by
  rcases BaseDevice.buildProp_cases host device root isDynamic with
    ⟨same, -, -, rejected⟩ | ⟨same, -, -, -, -, found⟩ |
      ⟨type, widgets, checked, tagged, absent, built, -, ⟨empty, same, -⟩ | ⟨kept, same, -⟩⟩
  · refine .inl ⟨?_, by rw [same]⟩
    rcases rejected with rejected | rejected <;> simp [definable, rejected]
  · refine .inl ⟨?_, by rw [same]⟩
    simp [definable, Option.isNone_iff_eq_none.not.mpr found]
  · refine .inl ⟨?_, by rw [same, BaseDevice.bindName_pAll]⟩
    simp [definable, checked, tagged, absent, ← defWidgets_names built, empty]
  · have typed := BaseDevice.defWidgets_type built
    refine .inr ⟨?_, _, by rw [same, BaseDevice.addProperty_fst, BaseDevice.bindName_pAll], ?_⟩
    · simp [definable, checked, tagged, absent, ← defWidgets_names built, kept]
    · rw [same]
      refine ⟨?_, ?_, rfl, rfl, rfl, rfl⟩ <;> simp only [Property.getType, definedProperty_widgets, typed]
      exacts [tagged, defWidgets_names built]

/-- Every widget of the property `buildProp` appends has a non-empty name: its widgets
are named by the element's non-empty stored child names, in document order, repeats
included. -/
theorem defined_widget_names_nonempty (host : Host) (device : BaseDevice) (root : Element)
    (isDynamic : Bool) {property : Property}
    (appended : (device.buildProp host root isDynamic).device.pAll = device.pAll ++ [property]) :
    property.widgets.names = memberNames host root property.getType ∧ "" ∉ property.widgets.names := by
  rcases buildProp_defines host device root isDynamic with ⟨-, same⟩ | ⟨-, added, grown, defined⟩
  · simpa using congrArg List.length (same.symm.trans appended)
  · obtain rfl : added = property := List.singleton_inj.mp (List.append_cancel_left (grown.symm.trans appended))
    exact ⟨defined.names, fun empty => defined.name_ne_empty empty rfl⟩

/-!
## Numbers and repeated names
-/

/-! The definition reads `min`, `max`, `step` and the timeout with the host's decimal
point, which the law leaves to the host. Repeated child names are all kept, and the
first-match lookup of an update reaches only the first of them. -/

def decimalDefinition : Element where
  tag := "defNumberVector"
  attributes := [("device", "D"), ("name", "FOO"), ("state", "Idle"), ("timeout", "2.5")]
  context := ""
  children := [{ tag := "defNumber", attributes := [("name", "x"), ("min", "0.5"), ("max", "1.5"),
    ("step", "0.25")], context := "1" }]

def numberBounds (device : BaseDevice) : List (Rat × List (Rat × Rat × Rat)) :=
  device.pAll.map fun property =>
    (property.timeout, match property.widgets with
      | .number widgets => widgets.map fun widget => (widget.min, widget.max, widget.step)
      | _ => [])

/-- One definition on two hosts: with a decimal point of `'.'` it stores what the text
says; with `','` the reads stop at the `.`. -/
theorem definition_numbers_read_in_host_locale :
    numberBounds (BaseDevice.empty.run Host.cLocale [.buildProp decimalDefinition false]).1 =
      [(mkRat 5 2, [(mkRat 1 2, mkRat 3 2, mkRat 1 4)])] ∧
    numberBounds (BaseDevice.empty.run { Host.cLocale with decimalPoint := ',' }
        [.buildProp decimalDefinition false]).1 = [(2, [(0, 1, 0)])] := by
  set_option maxRecDepth 20000 in decide

def repeatedDefinition : Element where
  tag := "defTextVector"
  attributes := [("device", "D"), ("name", "FOO")]
  context := ""
  children := [{ tag := "defText", attributes := [("name", "x")], context := "a" },
    { tag := "defText", attributes := [("name", "x")], context := "b" }]

def repeatedUpdate : Element where
  tag := "setTextVector"
  attributes := [("device", "D"), ("name", "FOO"), ("state", "Ok")]
  context := ""
  children := [{ tag := "oneText", attributes := [("name", "x")], context := "c" }]

/-- Both children named `x` become widgets, and an update of `x` reaches only the first. -/
theorem repeated_widget_names_kept :
    (BaseDevice.empty.run Host.cLocale [.buildProp repeatedDefinition false]).1.pAll.map
        (·.widgets.names) = [["x", "x"]] ∧
    (BaseDevice.empty.run Host.cLocale
        [.buildProp repeatedDefinition false, .setValue repeatedUpdate []]).1.pAll.map
        (fun property => match property.widgets with
          | .text widgets => widgets.map (·.text)
          | _ => []) = [["c", "b"]] := by
  set_option maxRecDepth 20000 in decide

def repeatedProperty : Property :=
  ⟨"FOO", "", "", "D", .ro, .idle, 0, true, false, .text [⟨"x", "", "a"⟩, ⟨"x", "", "b"⟩]⟩

theorem repeated_definition_names_nonempty :
    (BaseDevice.empty.buildProp Host.cLocale repeatedDefinition false).device.pAll =
      BaseDevice.empty.pAll ++ [repeatedProperty] ∧
    repeatedProperty.widgets.names = memberNames Host.cLocale repeatedDefinition repeatedProperty.getType ∧
    "" ∉ repeatedProperty.widgets.names :=
  have appended : (BaseDevice.empty.buildProp Host.cLocale repeatedDefinition false).device.pAll =
      BaseDevice.empty.pAll ++ [repeatedProperty] := by
    set_option maxRecDepth 20000 in decide
  ⟨appended, defined_widget_names_nonempty Host.cLocale BaseDevice.empty repeatedDefinition false appended⟩

end Indi
