import Mathlib.Data.Rat.Defs

/-!
# Properties and widgets

The value model of `libs/indibase`: the five widget kinds, the property that owns a
list of widgets of one kind, and the first-match searches `isNameMatch` and
`findWidgetByName` that the registry and the codec use.
-/

set_option autoImplicit false

namespace Indi

/-!
## Enumerations
-/

/-! The enumerations of `indiapi.h`. Numbers (`double` in the sources) are exact
rationals; where two computations of a number are compared, both round alike in doubles. -/

/-- `IPState`. -/
inductive IPState where
  | idle
  | ok
  | busy
  | alert
  deriving DecidableEq, Repr

/-- `IPerm`. -/
inductive IPerm where
  | ro
  | wo
  | rw
  deriving DecidableEq, Repr

/-- `ISState`. -/
inductive ISState where
  | off
  | on
  deriving DecidableEq, Repr

/-- `INDI_PROPERTY_TYPE`; `unknown` is the type of an invalid property handle. -/
inductive PropertyType where
  | number
  | switch
  | text
  | light
  | blob
  | unknown
  deriving DecidableEq, Repr

/-- Modelled from the spec: the return codes of `basedevice.h`, absent from the sources;
`ok` is `0`, `error` is `-1`, and the other two are distinct and non-zero. -/
inductive Code where
  | ok
  | error
  | propertyInvalid
  | propertyDuplicated
  deriving DecidableEq, Repr

/-!
## Buffers and widgets
-/

/-! A BLOB buffer is tagged with where its memory comes from, so that the model can
say which release function may be applied to it. -/

/-- Where the memory behind a BLOB's `void *` comes from: the C heap (`malloc`,
`realloc`) or a side-channel buffer handed out by `attachBlobByUid`. -/
inductive Origin where
  | heap
  | shared
  deriving DecidableEq, Repr

/-- The memory a non-null `void *` points at. -/
structure Buffer where
  origin : Origin
  bytes : List UInt8
  deriving DecidableEq, Repr

/-- `INumber`. -/
structure NumberWidget where
  name : String
  label : String
  format : String
  min : ℚ
  max : ℚ
  step : ℚ
  value : ℚ
  deriving DecidableEq, Repr

/-- `ISwitch`. -/
structure SwitchWidget where
  name : String
  label : String
  state : ISState
  deriving DecidableEq, Repr

/-- `IText`. -/
structure TextWidget where
  name : String
  label : String
  text : String
  deriving DecidableEq, Repr

/-- `ILight`. -/
structure LightWidget where
  name : String
  label : String
  state : IPState
  deriving DecidableEq, Repr

/-- `IBLOB`: `blob` is `none` for a null pointer; `blobLen` and `size` are the
`bloblen` and `size` fields. -/
structure BlobWidget where
  name : String
  label : String
  format : String
  blob : Option Buffer
  blobLen : Int
  size : Int
  deriving DecidableEq, Repr

/-- The widgets of a property. One constructor per kind, so that every widget of a
property has the property's kind. -/
inductive Widgets where
  | number (widgets : List NumberWidget)
  | switch (widgets : List SwitchWidget)
  | text (widgets : List TextWidget)
  | light (widgets : List LightWidget)
  | blob (widgets : List BlobWidget)
  deriving DecidableEq, Repr

namespace Widgets

/-- The kind of the widgets; never `unknown`. -/
def type : Widgets → PropertyType
  | .number _ => .number
  | .switch _ => .switch
  | .text _ => .text
  | .light _ => .light
  | .blob _ => .blob

def names : Widgets → List String
  | .number widgets => widgets.map (·.name)
  | .switch widgets => widgets.map (·.name)
  | .text widgets => widgets.map (·.name)
  | .light widgets => widgets.map (·.name)
  | .blob widgets => widgets.map (·.name)

theorem type_ne_unknown (widgets : Widgets) : widgets.type ≠ .unknown := by
  cases widgets <;> simp [type]

end Widgets

/-!
## Properties
-/

/-! `INDI::Property` with the fields that the modelled functions read or write. The
switch rule, the timestamp and the base-device back pointer are read by none of them. -/

/-- `INDI::Property`. -/
structure Property where
  name : String
  label : String
  group : String
  device : String
  permission : IPerm
  state : IPState
  timeout : ℚ
  registered : Bool
  dynamic : Bool
  widgets : Widgets
  deriving DecidableEq, Repr

namespace Property

/-- `Property::getType`. -/
def getType (property : Property) : PropertyType :=
  property.widgets.type

/-- `Property::isNameMatch`: exact, case-sensitive. -/
def isNameMatch (property : Property) (name : String) : Bool :=
  property.name == name

/-- `Property::isEmpty`: no widgets. -/
def isEmpty (property : Property) : Bool :=
  property.widgets.names.isEmpty

/-- What a write through a handle keeps: name, type and registered flag. -/
def shape (property : Property) : String × PropertyType × Bool :=
  (property.name, property.getType, property.registered)

theorem getType_ne_unknown (property : Property) : property.getType ≠ .unknown :=
  property.widgets.type_ne_unknown

@[simp] theorem isNameMatch_iff (property : Property) (name : String) :
    property.isNameMatch name = true ↔ property.name = name := by
  simp [isNameMatch]

end Property

/-!
## First-match writes
-/

/-! `findWidgetByName` and `getProperty` return a pointer (or a shared handle) to the
first match; a write through it changes that element in place. -/

/-- Apply `f` to the first element satisfying `selects`, leaving the rest as it is. -/
def updateFirst {α : Type} (selects : α → Bool) (f : α → α) : List α → List α
  | [] => []
  | head :: tail => if selects head then f head :: tail else head :: updateFirst selects f tail

@[simp] theorem updateFirst_nil {α : Type} (selects : α → Bool) (f : α → α) :
    updateFirst selects f [] = [] := rfl

theorem updateFirst_cons {α : Type} (selects : α → Bool) (f : α → α) (head : α) (tail : List α) :
    updateFirst selects f (head :: tail) =
      if selects head then f head :: tail else head :: updateFirst selects f tail := rfl

@[simp] theorem length_updateFirst {α : Type} (selects : α → Bool) (f : α → α) (items : List α) :
    (updateFirst selects f items).length = items.length := by
  induction items with
  | nil => rfl
  | cons head tail ih => by_cases selected : selects head <;> simp [updateFirst_cons, selected, ih]

theorem map_updateFirst {α β : Type} (selects : α → Bool) (f : α → α) (key : α → β)
    (keeps : ∀ item, key (f item) = key item) (items : List α) :
    (updateFirst selects f items).map key = items.map key := by
  induction items with
  | nil => rfl
  | cons head tail ih => by_cases selected : selects head <;> simp [updateFirst_cons, selected, ih, keeps]

theorem updateFirst_eq_self {α : Type} (selects : α → Bool) (f : α → α)
    (fixes : ∀ item, selects item = true → f item = item) (items : List α) :
    updateFirst selects f items = items := by
  induction items with
  | nil => rfl
  | cons head tail ih =>
      by_cases selected : selects head <;> simp [updateFirst_cons, selected, ih, fixes]

theorem map_updateFirst_of_find? {α β : Type} (selects : α → Bool) (f : α → α) (key : α → β)
    (items : List α) (keeps : ∀ item, items.find? selects = some item → key (f item) = key item) :
    (updateFirst selects f items).map key = items.map key := by
  induction items with
  | nil => rfl
  | cons head tail ih =>
      by_cases selected : selects head
      · simp [updateFirst_cons, selected, keeps head (by simp [selected])]
      · simp only [updateFirst_cons, selected, List.map_cons]
        exact congrArg _ (ih fun item found => keeps item (by simp [selected, found]))

end Indi
