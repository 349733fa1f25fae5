import Indi.Base.UpdateProperties

/-!
# What an update changes

The frame law of `setValue`. The only entry it writes is the first registered one with
the element's name and kind, and it changes only that entry's state, its timeout and
its widgets' value fields. A scalar update ignores a child that names no widget. A BLOB
update does not: it dereferences the widget it did not find, or notifies a widget it
did not find. A failed update does not leave its property as it was.
-/

set_option autoImplicit false

namespace Indi

open BaseDevice

/-!
## The frame law
-/

theorem getElem?_updateFirst_of_ne {α : Type} (selects : α → Bool) (f : α → α) (items : List α)
    {index : Nat} (other : index ≠ items.findIdx selects) :
    (updateFirst selects f items)[index]? = items[index]? := by
  induction items generalizing index with
  | nil => rfl
  | cons head tail ih =>
      by_cases selected : selects head
      · obtain ⟨index, rfl⟩ : ∃ previous, index = previous + 1 :=
          Nat.exists_eq_add_one.mpr (Nat.pos_of_ne_zero (by simpa [List.findIdx_cons, selected] using other))
        simp [updateFirst_cons, selected]
      · cases index with
        | zero => simp [updateFirst_cons, selected]
        | succ index =>
            simp only [updateFirst_cons, selected, Bool.false_eq_true, ↓reduceIte, List.getElem?_cons_succ]
            exact ih (by simpa [List.findIdx_cons, selected] using other)

theorem checkMessage_pAll (host : Host) (device : BaseDevice) (root : Node) :
    (device.checkMessage host root).device.pAll = device.pAll :=
  (message_frame (checkMessage_cases host device root)).1

/-- The frame law: every entry keeps its frame, and every entry but the first
registered one of the element's name and kind is left as it was. -/
theorem setValue_writes_values_only (host : Host) (device : BaseDevice) (root : Element)
    (allocator : List Bool) :
    (device.setValue host root allocator).device.pAll.map Property.frame = device.pAll.map Property.frame ∧
    ∀ index, index ≠ device.pAll.findIdx
        (matchesLookup (valueText (root.getAttribute "name")) ((setTagType root.tag).getD .unknown)) →
      (device.setValue host root allocator).device.pAll[index]? = device.pAll[index]? := by
  rcases setValue_device host device root allocator with
    same | same | ⟨name, type, found, written, named, tagged, lookup, kept, wrote⟩
  · simp only [same, implies_true, and_self]
  · simp only [same, checkMessage_pAll, implies_true, and_self]
  · have frames := writeProperty_map Property.frame lookup kept
    rw [checkMessage_pAll] at frames
    refine ⟨by rw [wrote, frames], fun index other => ?_⟩
    rw [named, tagged] at other
    rw [wrote, writeProperty, getElem?_updateFirst_of_ne _ _ _ (by rwa [checkMessage_pAll]),
      checkMessage_pAll]

/-!
## Children that name no widget
-/

/-! `for_property` writes the first widget of a child's name, and no write renames a
widget; a child whose name no widget has is skipped. -/

theorem updateFirst_eq_self_of_none {α : Type} (selects : α → Bool) (f : α → α) (items : List α)
    (none : ∀ item ∈ items, selects item = false) : updateFirst selects f items = items := by
  induction items with
  | nil => rfl
  | cons head tail ih =>
      simp only [updateFirst_cons, none head (List.mem_cons_self head tail), Bool.false_eq_true,
        ↓reduceIte, ih fun item member => none item (List.mem_cons_of_mem head member)]

theorem forProperty_skip {α : Type} (nameOf : α → String) (apply : Node → α → α)
    (keepsName : ∀ element item, nameOf (apply element item) = nameOf item)
    (before after : List Node) (child : Node) (widgets : List α)
    (unknown : valueText (child.getAttribute "name") ∉ widgets.map nameOf) :
    forProperty nameOf apply (before ++ child :: after) widgets =
      forProperty nameOf apply (before ++ after) widgets := by
  have named := forProperty_map nameOf apply nameOf keepsName before widgets
  simp only [forProperty, List.foldl_append, List.foldl_cons] at named ⊢
  rw [updateFirst_eq_self_of_none]
  intro widget member
  rw [← named] at unknown
  exact beq_false_of_ne fun same => unknown (same ▸ List.mem_map_of_mem nameOf member)

theorem Widgets.forProperty_skip (host : Host) (before after : List Node) (child : Node)
    (widgets : Widgets) (unknown : valueText (child.getAttribute "name") ∉ widgets.names) :
    widgets.forProperty host (before ++ child :: after) = widgets.forProperty host (before ++ after) := by
  cases widgets <;> simp only [Widgets.forProperty] <;>
    exact congrArg _ (Indi.forProperty_skip _ _ (fun _ _ => by rfl) _ _ _ _ unknown)

theorem updateWidgets_skip (host : Host) (device : BaseDevice) (node : Node) (before after : List Node)
    (child : Node) (name : String) (type : PropertyType) (property : Property) (allocator : List Bool)
    (scalar : property.getType ≠ .blob)
    (unknown : valueText (child.getAttribute "name") ∉ property.widgets.names) :
    device.updateWidgets host ⟨node, before ++ child :: after⟩ name type property allocator =
      device.updateWidgets host ⟨node, before ++ after⟩ name type property allocator := by
  obtain ⟨_, _, _, _, _, _, _, _, _, widgets⟩ := property
  cases widgets
  case blob => exact absurd rfl scalar
  all_goals
    simp only [updateWidgets, Element.getElements]
    rw [Widgets.forProperty_skip host before after child _ unknown]

theorem setTagType_ne_unknown {tag : String} {type : PropertyType} (found : setTagType tag = some type) :
    type ≠ .unknown := by
  unfold setTagType at found
  split at found <;> cases found <;> decide

theorem getType_of_getProperty {device : BaseDevice} {name : String} {type : PropertyType}
    {property : Property} (found : device.getProperty name type = some property) (known : type ≠ .unknown) :
    property.getType = type := by
  have matched := (getProperty_mem found).2
  simp only [matchesLookup, known, Bool.and_eq_true, Bool.or_eq_true, beq_iff_eq, or_false] at matched
  exact matched.1.1.symm

theorem getProperty_checkMessage (host : Host) (device : BaseDevice) (root : Node) (name : String)
    (type : PropertyType) :
    (device.checkMessage host root).device.getProperty name type = device.getProperty name type := by
  unfold getProperty
  rw [checkMessage_pAll]

/-- A scalar update ignores a child that names no widget of the property it addresses:
the reply, the device and the events are those of the element without the child. -/
theorem setValue_ignores_unknown_child (host : Host) (device : BaseDevice) (node : Node)
    (before after : List Node) (child : Node) (allocator : List Bool)
    (scalar : setTagType node.tag ≠ some .blob)
    (unknown : ∀ property, device.getProperty (valueText (node.getAttribute "name"))
        ((setTagType node.tag).getD .unknown) = some property →
      valueText (child.getAttribute "name") ∉ property.widgets.names) :
    device.setValue host ⟨node, before ++ child :: after⟩ allocator =
      device.setValue host ⟨node, before ++ after⟩ allocator := by
  unfold setValue
  dsimp only
  split
  · rfl
  split
  · rfl
  rename_i name named _ type tagged
  split
  · rfl
  rename_i property found
  have lookup : device.getProperty (valueText (node.getAttribute "name"))
      ((setTagType node.tag).getD .unknown) = some property := by
    rw [named, tagged, ← found, getProperty_checkMessage]
    rfl
  have typed := getType_of_getProperty found (setTagType_ne_unknown tagged)
  split
  · rfl
  split <;> rw [updateWidgets_skip _ _ _ _ _ _ _ _ _ _
    (by exact fun same => scalar (tagged.trans (congrArg some (typed.symm.trans same))))
    (by exact unknown property lookup)]

/-- The update of `x` of `FOO`, then a child for `y`, which `FOO` does not have. -/
theorem unknown_number_child_ignored :
    setTagType numberUpdate.tag ≠ some .blob ∧
    (∀ property, (BaseDevice.empty.run Host.cLocale [.buildProp (numberDefinition "D" "FOO") false]).1.getProperty
        (valueText (numberUpdate.getAttribute "name")) ((setTagType numberUpdate.tag).getD .unknown) =
          some property →
      valueText ((⟨"oneNumber", [("name", "y")], "2"⟩ : Node).getAttribute "name") ∉ property.widgets.names) ∧
    (BaseDevice.empty.run Host.cLocale [.buildProp (numberDefinition "D" "FOO") false]).1.setValue Host.cLocale
        ⟨numberUpdate.toNode, numberUpdate.children ++ [⟨"oneNumber", [("name", "y")], "2"⟩]⟩ [] =
      (BaseDevice.empty.run Host.cLocale [.buildProp (numberDefinition "D" "FOO") false]).1.setValue Host.cLocale
        ⟨numberUpdate.toNode, numberUpdate.children ++ []⟩ [] := by
  refine ⟨by decide, ?unknown, setValue_ignores_unknown_child _ _ _ _ _ _ _ (by decide) ?unknown⟩
  intro property found
  have names : ((BaseDevice.empty.run Host.cLocale
      [.buildProp (numberDefinition "D" "FOO") false]).1.getProperty (valueText (numberUpdate.getAttribute "name"))
        ((setTagType numberUpdate.tag).getD .unknown)).map (·.widgets.names) = some ["x"] := by
    decide
  rw [found, Option.map_some', Option.some.injEq] at names
  rw [names]
  decide

/-!
## BLOB children and failed updates
-/

/-! `setBLOB` looks a child's widget up without `for_property`'s null check, and stops at
the first child that fails, after writing what it loaded. The state is written before
the widgets are, whatever comes of them. -/

def blobUpdateThen (extra : List Node) : Element :=
  { blobUpdate "QUJD" [("size", "3"), ("format", ".fits")] "QUJD" with
    children := (blobUpdate "QUJD" [("size", "3"), ("format", ".fits")] "QUJD").children ++ extra }

def strangerBlob (size : String) : Node :=
  ⟨"oneBLOB", [("name", "v"), ("size", size), ("format", ".fits")], "QUJD"⟩

/-- A child for a widget `IMG` lacks: with a size it is dereferenced, with size `0` it
is notified. -/
theorem unknown_blob_child_acts :
    ((BaseDevice.empty.run Host.cLocale [.buildProp blobDefinition false]).1.setValue Host.cLocale
        (blobUpdateThen []) []).result = .returned ⟨.ok, none⟩ ∧
    ((BaseDevice.empty.run Host.cLocale [.buildProp blobDefinition false]).1.setValue Host.cLocale
        (blobUpdateThen [strangerBlob "3"]) []).result = .fault ∧
    (BaseDevice.empty.run Host.cLocale [.setMediator true, .buildProp blobDefinition false,
        .setValue (blobUpdateThen []) []]).2.count (.notify (.newBLOB none)) = 0 ∧
    (BaseDevice.empty.run Host.cLocale [.setMediator true, .buildProp blobDefinition false,
        .setValue (blobUpdateThen [strangerBlob "0"]) []]).2.count (.notify (.newBLOB none)) = 1 := by
  set_option maxRecDepth 20000 in decide

def statelessUpdate : Element :=
  { numberUpdate with attributes := [("device", "D"), ("name", "FOO")] }

/-- A BLOB update whose child lacks its size and format returns `-1` with the state it
carries written; an update without a state turns an `Ok` property `Idle`. -/
theorem update_state_not_atomic :
    (BaseDevice.empty.run Host.cLocale [.buildProp blobDefinition false]).1.pAll.map Property.state = [.idle] ∧
    ((BaseDevice.empty.run Host.cLocale [.buildProp blobDefinition false]).1.setValue Host.cLocale
        (blobUpdate "" [] "") []).result = .returned ⟨.error, some "INDI: D.IMG.w No valid members."⟩ ∧
    ((BaseDevice.empty.run Host.cLocale [.buildProp blobDefinition false]).1.setValue Host.cLocale
        (blobUpdate "" [] "") []).device.pAll.map Property.state = [.ok] ∧
    (BaseDevice.empty.run Host.cLocale [.buildProp (numberDefinition "D" "FOO") false,
        .setValue numberUpdate []]).1.pAll.map Property.state = [.ok] ∧
    ((BaseDevice.empty.run Host.cLocale [.buildProp (numberDefinition "D" "FOO") false,
        .setValue numberUpdate []]).1.setValue Host.cLocale statelessUpdate []).result =
      .returned ⟨.error, some "INDI: <setNumberVector> bogus state  for FOO"⟩ ∧
    ((BaseDevice.empty.run Host.cLocale [.buildProp (numberDefinition "D" "FOO") false,
        .setValue numberUpdate []]).1.setValue Host.cLocale statelessUpdate []).device.pAll.map
        Property.state = [.idle] := by
  set_option maxRecDepth 20000 in decide

def twoBlobDefinition : Element where
  tag := "defBLOBVector"
  attributes := [("device", "D"), ("name", "IMG"), ("perm", "ro"), ("state", "Idle")]
  context := ""
  children := [⟨"defBLOB", [("name", "w"), ("format", ".fits")], ""⟩,
    ⟨"defBLOB", [("name", "v"), ("format", ".fits")], ""⟩]

def twoBlobUpdate (children : List Node) : Element where
  tag := "setBLOBVector"
  attributes := [("device", "D"), ("name", "IMG"), ("state", "Ok")]
  context := "QUJD"
  children := children

def abcBlob (name format : String) : Node :=
  ⟨"oneBLOB", [("name", name), ("size", "3"), ("format", format)], "QUJD"⟩

def blobWidgets (device : BaseDevice) : List (List BlobWidget) :=
  device.pAll.map fun property => match property.widgets with
    | .blob widgets => widgets
    | _ => []

/-- On a host whose `uncompress` rejects every payload, a compressed `w` fails: `-1`,
with `w`'s buffer, size and format written and `v` not applied, though `v` alone is. A
failed allocation of the inline path writes through the null buffer. -/
theorem failing_blob_not_isolated :
    ((BaseDevice.empty.run Host.cLocale [.buildProp twoBlobDefinition false]).1.setValue Host.cLocale
        (twoBlobUpdate [abcBlob "w" ".fits.z", abcBlob "v" ".fits"]) []).result =
      .returned ⟨.error, some "INDI: D.IMG.w compression error: -3"⟩ ∧
    blobWidgets ((BaseDevice.empty.run Host.cLocale [.buildProp twoBlobDefinition false]).1.setValue
        Host.cLocale (twoBlobUpdate [abcBlob "w" ".fits.z", abcBlob "v" ".fits"]) []).device =
      [[⟨"w", "", ".fits", some ⟨.heap, [65, 66, 67]⟩, 3, 3⟩, ⟨"v", "", ".fits", none, 0, 0⟩]] ∧
    blobWidgets ((BaseDevice.empty.run Host.cLocale [.buildProp twoBlobDefinition false]).1.setValue
        Host.cLocale (twoBlobUpdate [abcBlob "v" ".fits"]) []).device =
      [[⟨"w", "", ".fits", none, 0, 0⟩, ⟨"v", "", ".fits", some ⟨.heap, [65, 66, 67]⟩, 3, 3⟩]] ∧
    ((BaseDevice.empty.run Host.cLocale [.buildProp twoBlobDefinition false]).1.setValue Host.cLocale
        (twoBlobUpdate [abcBlob "w" ".fits", abcBlob "v" ".fits"]) [false]).result = .fault := by
  set_option maxRecDepth 20000 in decide

end Indi
