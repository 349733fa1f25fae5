import Indi.Base.UpdatePatches
import Indi.Base.UpdateFrame

/-!
# Update idempotence

`setValue` applied twice to an element without attached-data-id children leaves the
registry and returns the reply it left and returned the first time. The scalar kinds
patch their widgets (`Widgets.forProperty_forProperty`). For `setBLOB` the proof is a
second, abstract model: over widgets of given names, `passCourse` says how the loop ends
and which patches it applies, whatever the widgets hold. `setBLOBChildren_course`
connects it to the code, and idempotence is then the law of patches.
-/

set_option autoImplicit false

namespace Indi

open BaseDevice

/-!
## The inline path
-/

/-- What the inline path makes of every widget: it goes wrong, nulls the buffer after a
failed `realloc` of an empty payload, or decodes `bytes` into `capacity` cells. -/
inductive Inline where
  | fault
  | null
  | decoded (bytes : List UInt8) (capacity : Nat)
  deriving DecidableEq

namespace Inline

def write : Inline → BufferWrite
  | fault => .keep
  | null => .null
  | decoded bytes capacity => .fill (bytes.map some ++ List.replicate (capacity - bytes.length) none)

def blobLen : Inline → Int
  | decoded bytes _ => bytes.length
  | _ => 0

end Inline

/-- The inline path of `setBLOB` for a child, whatever the widget. -/
def inlineCourse (root : Element) (element : Node) (succeeds : Bool) : Inline :=
  let encoded := element.context.length
  let capacity := 3 * encoded / 4
  let decoded := from64tobitsFast root.context.toList encoded
  if root.context.length < encoded then .fault
  else if !succeeds then (if decoded.isEmpty then .null else .fault)
  else if capacity < decoded.length then .fault
  else .decoded decoded capacity

theorem inlineBase64_course (root : Element) (element : Node) (succeeds : Bool) (widget : BlobWidget) :
    (inlineBase64 root element succeeds widget).map Prod.fst =
      match inlineCourse root element succeeds with
      | .fault => none
      | inline => some { widget with blob := inline.write.apply widget.blob, blobLen := inline.blobLen } := by
  unfold inlineBase64 inlineCourse realloc
  dsimp only
  generalize from64tobitsFast root.context.toList element.context.length = decoded
  generalize 3 * element.context.length / 4 = capacity
  by_cases short : root.context.length < element.context.length
  · simp [short]
  cases succeeds
  · by_cases empty : decoded.isEmpty <;> simp [short, empty, Inline.write, Inline.blobLen, BufferWrite.apply]
  · by_cases over : capacity < decoded.length
    · simp [short, over]
    · simp [short, over, Inline.write, Inline.blobLen, BufferWrite.apply, reallocBytes_eq_fillCells,
        decoded_fillCells decoded capacity (Nat.le_of_not_lt over)]

/-!
## Inflation
-/

/-- How the work on one widget ends, whatever it held: in undefined behaviour, returning
`reply` after writing `patch`, or done after writing `patch`. -/
inductive WidgetCourse where
  | fault
  | stop (reply : Reply) (patch : BlobPatch)
  | done (patch : BlobPatch)

/-- The course `describes` a step on `widget` when they end alike and the widget written
is `widget` patched. -/
def WidgetCourse.Describes (widget : BlobWidget) : WidgetCourse → WidgetStep → Prop
  | .fault, .fault => True
  | .stop reply patch, .stop reply' written _ => reply' = reply ∧ written = blobOverwrite.apply patch widget
  | .done patch, .done inflated _ => inflated = blobOverwrite.apply patch widget
  | _, _ => False

/-- `inflate` of the widget `name` after the inline path `inline` wrote it with `size`. -/
def inflateCourse (host : Host) (deviceName propertyName name format : String) (succeeds : Bool)
    (size : Int) (inline : Inline) : WidgetCourse :=
  let strip : BlobPatch := ⟨some (fit host.capacities.blobFormat (format.dropRight 2)), none, none, .keep⟩
  let capacity := sizeT size
  if !succeeds then .stop ⟨.error, some "Unable to allocate memory for data buffer"⟩ strip
  else
    match inline with
    | .decoded bytes _ =>
        match host.uncompress (bytes.take (sizeT bytes.length)) capacity with
        | .error code =>
            .stop ⟨.error, some ("INDI: " ++ deviceName ++ "." ++ propertyName ++ "." ++ name ++
              " compression error: " ++ toString code)⟩ strip
        | .ok data =>
            if capacity < data.length then .fault
            else .done ⟨strip.format, none, some data.length,
              .fill ((data ++ List.replicate (capacity - data.length) 0).map some)⟩
    | _ => .fault

theorem sizeT_natCast_le (length : Nat) : sizeT (length : Int) ≤ length := by
  unfold sizeT
  rw [← Int.natCast_mod, Int.toNat_natCast]
  exact Nat.mod_le _ _

/-- What the inline path writes into a widget of a child of `size`. -/
def Inline.patch (inline : Inline) (size : Int) : BlobPatch :=
  ⟨none, some inline.blobLen, some size, inline.write⟩

theorem inflate_course (host : Host) (deviceName propertyName format : String) (succeeds : Bool)
    (size : Int) (inline : Inline) (loadable : inline ≠ .fault) (widget : BlobWidget) :
    (inflateCourse host deviceName propertyName widget.name format succeeds size inline).Describes
      (blobOverwrite.apply (inline.patch size) widget)
      (inflate host deviceName propertyName format succeeds (blobOverwrite.apply (inline.patch size) widget)) := by
  unfold inflateCourse inflate
  cases succeeds
  · exact ⟨rfl, rfl⟩
  cases inline with
  | fault => exact absurd rfl loadable
  | null => trivial
  | decoded bytes capacity =>
      have short : sizeT (bytes.length : Int) ≤ bytes.length := sizeT_natCast_le bytes.length
      have fits : ¬ bytes.length + (capacity - bytes.length) < sizeT (bytes.length : Int) := by omega
      simp only [blobOverwrite, Inline.patch, Inline.write, Inline.blobLen, BufferWrite.apply,
        fillCells_map_some_append, Option.getD_some, Option.getD_none, Bool.not_true, Bool.false_eq_true,
        ↓reduceIte, List.length_append, length_fillCells, List.length_replicate, fits,
        List.take_append_of_le_length short]
      cases host.uncompress (bytes.take (sizeT bytes.length)) (sizeT size) with
      | error code => exact ⟨rfl, rfl⟩
      | ok data =>
          by_cases over : sizeT size < data.length
          · simp only [over, ↓reduceIte]
            trivial
          · simp only [over, ↓reduceIte, WidgetCourse.Describes, blobOverwrite, BufferWrite.apply,
              fillCells_map_some, Option.getD_some, Option.getD_none]

/-!
## One child
-/

/-- How a step of `setBLOB` ends over widgets of given names, whatever they hold: in
undefined behaviour, at the next child with `patches` applied and the allocator's
outcomes `rest` left, or returning `reply` with `patches` applied. -/
inductive Course where
  | fault
  | next (patches : List BlobPatch) (rest : List Bool)
  | stop (reply : Reply) (patches : List BlobPatch)

/-- The course `describes` a step from `widgets` when they end alike, with the widgets
patched. -/
def Course.Describes (widgets : List BlobWidget) : Course → BlobStep → Prop
  | .fault, .fault => True
  | .next patches rest, .next state =>
      state.widgets = blobOverwrite.applyAll patches widgets ∧ state.allocator = rest
  | .stop reply patches, .stop reply' state =>
      reply' = reply ∧ state.widgets = blobOverwrite.applyAll patches widgets
  | _, _ => False

/-- One `oneBLOB` child without attached data, over widgets named `names`. -/
def childCourse (host : Host) (deviceName propertyName : String) (root : Element) (element : Node)
    (names : List String) (allocator : List Bool) : Course :=
  let name := element.getAttribute "name"
  let format := element.getAttribute "format"
  let size := element.getAttribute "size"
  let place (patch : BlobPatch) := blobOverwrite.patchAt (valueText name) patch names
  let inline := inlineCourse root element (nextAllocation allocator).1
  let rest := (nextAllocation allocator).2
  if name.isNone || format.isNone || size.isNone then
    .stop ⟨.error, some ("INDI: " ++ deviceName ++ "." ++ propertyName ++ "." ++ valueText name ++
      " No valid members.")⟩ []
  else if toInt size = 0 then .next [] allocator
  else if !names.contains (valueText name) then .fault
  else if inline = .fault then .fault
  else
    let load := inline.patch (toInt size)
    if endsWith (valueText format) ".z" then
      match inflateCourse host deviceName propertyName (valueText name) (valueText format)
          (nextAllocation rest).1 (toInt size) inline with
      | .fault => .fault
      | .stop reply patch => .stop reply (place (blobOverwrite.andThen load patch))
      | .done patch => .next (place (blobOverwrite.andThen load patch)) (nextAllocation rest).2
    else
      .next (place (blobOverwrite.andThen load
        ⟨some (fit host.capacities.blobFormat (valueText format)), none, none, .keep⟩)) rest

theorem updateFirst_of_find? {α : Type} {selects : α → Bool} (f : α → α) {items : List α} {item : α}
    (found : items.find? selects = some item) :
    updateFirst selects (fun _ => f item) items = updateFirst selects f items := by
  induction items with
  | nil => cases found
  | cons head tail ih =>
      by_cases selected : selects head
      · simp only [List.find?_cons, selected, Option.some.injEq] at found
        subst found
        simp [updateFirst_cons, selected]
      · simp only [List.find?_cons, selected] at found
        simp [updateFirst_cons, selected, ih found]

theorem contains_names_iff (widgets : List BlobWidget) (name : String) :
    (widgets.map (·.name)).contains name = (widgets.find? (·.name == name)).isSome := by
  rw [Bool.eq_iff_iff]
  simp [List.find?_isSome]

theorem loadPayload_course (host : Host) (root : Element) (element : Node) (allocator : List Bool)
    (size : Int) (widget : BlobWidget) (inline : element.getAttribute "attached-data-id" = none) :
    (loadPayload host root element allocator size { widget with size := size }).map
        (fun loaded => (loaded.1, loaded.2.2)) =
      if inlineCourse root element (nextAllocation allocator).1 = .fault then none
      else some (blobOverwrite.apply ((inlineCourse root element (nextAllocation allocator).1).patch size)
        widget, (nextAllocation allocator).2) := by
  have decoded := inlineBase64_course root element (nextAllocation allocator).1 { widget with size := size }
  simp only [loadPayload, inline, Option.map_map, Function.comp_def]
  split_ifs with loadable
  · rw [loadable] at decoded
    simpa using decoded
  · split at decoded
    · contradiction
    · obtain ⟨⟨loaded, events⟩, decodes, rfl⟩ := Option.map_eq_some'.mp decoded
      simp [decodes, blobOverwrite, Inline.patch]

theorem write_course {widgets : List BlobWidget} {name : String} {widget : BlobWidget}
    (found : widgets.find? (·.name == name) = some widget) (patch : BlobPatch) :
    updateFirst (·.name == name) (fun _ => blobOverwrite.apply patch widget) widgets =
      blobOverwrite.applyAll (blobOverwrite.patchAt name patch (widgets.map (·.name))) widgets :=
  (updateFirst_of_find? (blobOverwrite.apply patch) found).trans (blobOverwrite.updateFirst_eq_applyAll name patch widgets)

theorem oneBLOB_course (host : Host) (mediator : Bool) (deviceName propertyName : String) (root : Element)
    (element : Node) (inline : element.getAttribute "attached-data-id" = none) (state : BlobState) :
    (childCourse host deviceName propertyName root element (state.widgets.map (·.name)) state.allocator).Describes
      state.widgets (oneBLOB host mediator deviceName propertyName root element state) := by
  unfold childCourse oneBLOB
  dsimp only
  by_cases missing : ((element.getAttribute "name").isNone || (element.getAttribute "format").isNone ||
      (element.getAttribute "size").isNone) = true
  · simp only [missing, ↓reduceIte]
    exact ⟨rfl, by simp⟩
  simp only [missing, Bool.false_eq_true, ↓reduceIte]
  by_cases zero : toInt (element.getAttribute "size") = 0
  · simp only [zero, ↓reduceIte]
    exact ⟨by simp, rfl⟩
  simp only [zero, ↓reduceIte, contains_names_iff]
  cases found : state.widgets.find? (·.name == valueText (element.getAttribute "name")) with
  | none => trivial
  | some widget =>
      have named : widget.name = valueText (element.getAttribute "name") := by
        simpa using List.find?_some found
      have load := loadPayload_course host root element state.allocator (toInt (element.getAttribute "size"))
        widget inline
      simp only [Option.isSome_some, Bool.not_true, Bool.false_eq_true, ↓reduceIte]
      by_cases loadable : inlineCourse root element (nextAllocation state.allocator).1 = .fault
      · simp only [loadable, ↓reduceIte, Option.map_eq_none'] at load ⊢
        simp only [load]
        trivial
      simp only [loadable, ↓reduceIte] at load ⊢
      obtain ⟨⟨loaded, loadEvents, rest⟩, loads, same⟩ := Option.map_eq_some'.mp load
      simp only [Prod.mk.injEq] at same
      obtain ⟨rfl, rfl⟩ := same
      simp only [loads]
      split
      · have inflated := inflate_course host deviceName propertyName (valueText (element.getAttribute "format"))
          (nextAllocation (nextAllocation state.allocator).2).1 (toInt (element.getAttribute "size"))
          (inlineCourse root element (nextAllocation state.allocator).1) loadable widget
        rw [named] at inflated
        revert inflated
        cases inflateCourse host deviceName propertyName (valueText (element.getAttribute "name"))
            (valueText (element.getAttribute "format")) (nextAllocation (nextAllocation state.allocator).2).1
            (toInt (element.getAttribute "size")) (inlineCourse root element (nextAllocation state.allocator).1) <;>
          cases inflate host deviceName propertyName (valueText (element.getAttribute "format"))
            (nextAllocation (nextAllocation state.allocator).2).1 _ <;>
          simp only [WidgetCourse.Describes, Course.Describes, imp_self, false_imp_iff, and_imp]
        · rintro rfl rfl
          exact ⟨rfl, by rw [← blobOverwrite.apply_andThen]; exact write_course found _⟩
        · rintro rfl
          exact ⟨by rw [← blobOverwrite.apply_andThen]; exact write_course found _, trivial⟩
      · exact ⟨by rw [← write_course found, blobOverwrite.apply_andThen]; rfl, rfl⟩

/-!
## The loop
-/

/-- The course with the patches `earlier` applied before its own. -/
def Course.after (earlier : List BlobPatch) : Course → Course
  | .fault => .fault
  | .next patches rest => .next (blobOverwrite.andThenAll earlier patches) rest
  | .stop reply patches => .stop reply (blobOverwrite.andThenAll earlier patches)

theorem Course.describes_after {earlier : List BlobPatch} {course : Course} {widgets : List BlobWidget}
    {step : BlobStep} (described : course.Describes (blobOverwrite.applyAll earlier widgets) step) :
    (course.after earlier).Describes widgets step := by
  cases course <;> cases step <;>
    simp_all only [Course.after, Course.Describes, Overwrite.applyAll_andThenAll, and_self]

/-- `setBLOB`'s loop over the children `elements`, over widgets named `names`. -/
def passCourse (host : Host) (deviceName propertyName : String) (root : Element) (names : List String) :
    List Node → List Bool → Course
  | [], _ => .stop ⟨.ok, none⟩ []
  | element :: elements, allocator =>
      match childCourse host deviceName propertyName root element names allocator with
      | .next patches rest => (passCourse host deviceName propertyName root names elements rest).after patches
      | course => course

theorem names_applyAll (patches : List BlobPatch) (widgets : List BlobWidget) :
    (blobOverwrite.applyAll patches widgets).map (·.name) = widgets.map (·.name) :=
  blobOverwrite.map_nameOf_applyAll patches widgets

theorem setBLOBChildren_course (host : Host) (mediator : Bool) (deviceName propertyName : String)
    (root : Element) (elements : List Node)
    (inline : ∀ element ∈ elements, element.getAttribute "attached-data-id" = none) (state : BlobState) :
    (passCourse host deviceName propertyName root (state.widgets.map (·.name)) elements state.allocator).Describes
      state.widgets (setBLOBChildren host mediator deviceName propertyName root elements state) := by
  induction elements generalizing state with
  | nil => exact ⟨rfl, by simp⟩
  | cons element elements ih =>
      have child := oneBLOB_course host mediator deviceName propertyName root element
        (inline element (List.mem_cons_self _ _)) state
      simp only [passCourse, setBLOBChildren]
      revert child
      cases childCourse host deviceName propertyName root element (state.widgets.map (·.name)) state.allocator <;>
        cases oneBLOB host mediator deviceName propertyName root element state <;>
        simp only [Course.Describes, imp_self, false_imp_iff]
      rintro ⟨written, rfl⟩
      rename_i patches next
      have rest := ih (fun other member => inline other (List.mem_cons_of_mem element member)) next
      rw [written, names_applyAll] at rest
      exact Course.describes_after rest

theorem setBLOB_again (host : Host) (mediator again : Bool) (deviceName propertyName : String)
    (root : Element) (widgets : List BlobWidget) (allocator : List Bool)
    (inline : ∀ element ∈ root.getElementsByTagName "oneBLOB", element.getAttribute "attached-data-id" = none)
    {reply : Reply} {state : BlobState}
    (stop : setBLOB host mediator deviceName propertyName root widgets allocator = .stop reply state) :
    ∃ after, setBLOB host again deviceName propertyName root state.widgets allocator = .stop reply after ∧
      after.widgets = state.widgets := by
  have first := setBLOBChildren_course host mediator deviceName propertyName root _ inline ⟨widgets, allocator, []⟩
  have second := setBLOBChildren_course host again deviceName propertyName root _ inline
    ⟨state.widgets, allocator, []⟩
  unfold setBLOB at stop ⊢
  rw [stop] at first
  generalize course : passCourse host deviceName propertyName root (widgets.map (·.name))
    (root.getElementsByTagName "oneBLOB") allocator = described at first
  cases described with
  | stop reply' patches =>
      obtain ⟨rfl, written⟩ := first
      rw [written, names_applyAll, course] at second
      rw [written]
      revert second
      cases setBLOBChildren host again deviceName propertyName root (root.getElementsByTagName "oneBLOB")
          ⟨blobOverwrite.applyAll patches widgets, allocator, []⟩ with
      | stop reply'' after =>
          rintro ⟨rfl, rewritten⟩
          exact ⟨after, rfl, rewritten.trans (blobOverwrite.applyAll_applyAll patches widgets)⟩
      | _ => simp [Course.Describes]
  | _ => simp [Course.Describes] at first

/-!
## The whole update
-/

theorem find?_updateFirst {α : Type} {selects : α → Bool} {items : List α} {found written : α}
    (lookup : items.find? selects = some found) (selected : selects written = true) :
    (updateFirst selects (fun _ => written) items).find? selects = some written := by
  induction items with
  | nil => cases lookup
  | cons head tail ih =>
      by_cases first : selects head
      · simp [updateFirst_cons, first, selected]
      · simp only [List.find?_cons, first] at lookup
        simp [updateFirst_cons, first, ih lookup]

theorem updateFirst_updateFirst {α : Type} {selects : α → Bool} {items : List α} {found written : α}
    (rewritten : α) (lookup : items.find? selects = some found) (selected : selects written = true) :
    updateFirst selects (fun _ => rewritten) (updateFirst selects (fun _ => written) items) =
      updateFirst selects (fun _ => rewritten) items := by
  induction items with
  | nil => cases lookup
  | cons head tail ih =>
      by_cases first : selects head
      · simp [updateFirst_cons, first, selected]
      · simp only [List.find?_cons, first] at lookup
        simp [updateFirst_cons, first, ih lookup]

namespace BaseDevice

variable {device : BaseDevice} {name : String} {type : PropertyType} {found written : Property}

theorem getProperty_writeProperty (lookup : device.getProperty name type = some found)
    (selected : matchesLookup name type written = true) :
    (device.writeProperty name type written).getProperty name type = some written := by
  unfold getProperty writeProperty at *
  exact find?_updateFirst lookup selected

theorem writeProperty_writeProperty (lookup : device.getProperty name type = some found)
    (selected : matchesLookup name type written = true) (rewritten : Property) :
    ((device.writeProperty name type written).writeProperty name type rewritten).pAll =
      (device.writeProperty name type rewritten).pAll :=
  updateFirst_updateFirst rewritten lookup selected

theorem writeProperty_again (host : Host) (root : Node) (lookup : device.getProperty name type = some found)
    (selected : matchesLookup name type written = true) :
    (((device.writeProperty name type written).checkMessage host root).device.writeProperty name type
        written).pAll = (device.writeProperty name type written).pAll := by
  have kept := checkMessage_pAll host (device.writeProperty name type written) root
  simp only [writeProperty] at kept ⊢
  rw [kept]
  exact updateFirst_updateFirst written lookup selected

end BaseDevice

theorem matchesLookup_of_shape {property other : Property} (same : property.shape = other.shape)
    (name : String) (type : PropertyType) : matchesLookup name type property = matchesLookup name type other := by
  simp only [Property.shape, Prod.mk.injEq] at same
  simp only [matchesLookup, Property.isNameMatch, same]

theorem updateWidgets_scalar (host : Host) (device : BaseDevice) (root : Element) (name : String)
    (type : PropertyType) (property : Property) (allocator : List Bool) (scalar : property.widgets.type ≠ .blob) :
    device.updateWidgets host root name type property allocator =
      ⟨.returned ⟨.ok, none⟩,
        device.writeProperty name type { property with widgets := property.widgets.forProperty host root.getElements },
        .emitUpdate property.name ::
          if device.mediator then [.notify (property.widgets.notification property.name)] else []⟩ := by
  unfold updateWidgets
  split
  · rename_i kind
    simp [kind, Widgets.type] at scalar
  · rfl

theorem updateWidgets_again (host : Host) (device : BaseDevice) (root : Element) (name : String)
    (type : PropertyType) (property : Property) (allocator : List Bool)
    (inline : ∀ child ∈ root.children, child.getAttribute "attached-data-id" = none) :
    (∀ other : BaseDevice, other.mediator = device.mediator →
      other.updateWidgets host root name type property allocator = ⟨.fault, other, []⟩) ∨
    ∃ widgets, widgets.type = property.widgets.type ∧
      (device.updateWidgets host root name type property allocator).device =
        device.writeProperty name type { property with widgets := widgets } ∧
      ∀ other : BaseDevice, other.mediator = device.mediator →
        (other.updateWidgets host root name type { property with widgets := widgets } allocator).result =
          (device.updateWidgets host root name type property allocator).result ∧
        (other.updateWidgets host root name type { property with widgets := widgets } allocator).device =
          other.writeProperty name type { property with widgets := widgets } := by
  by_cases scalar : property.widgets.type = .blob
  · obtain ⟨widgets, kind⟩ : ∃ widgets, property.widgets = .blob widgets := by
      cases widgets : property.widgets <;> simp_all [Widgets.type]
    have oneBLOBs : ∀ element ∈ root.getElementsByTagName "oneBLOB",
        element.getAttribute "attached-data-id" = none := fun element member =>
      inline element (List.mem_filter.mp member).1
    simp only [updateWidgets, kind]
    cases stepped : setBLOB host device.mediator property.device property.name root widgets allocator with
    | stop reply state =>
        refine .inr ⟨.blob state.widgets, rfl, rfl, fun other same => ?_⟩
        obtain ⟨after, again, rewritten⟩ := setBLOB_again host device.mediator other.mediator _ _ root widgets
          allocator oneBLOBs stepped
        simp only [again, rewritten, and_self]
    | _ => exact .inl fun other same => by simp only [same, stepped]
  · have kept : (property.widgets.forProperty host root.getElements).type ≠ .blob := by
      rwa [Widgets.type_forProperty]
    refine .inr ⟨_, Widgets.type_forProperty _ _ _, by rw [updateWidgets_scalar _ _ _ _ _ _ _ scalar],
      fun other _ => ?_⟩
    rw [updateWidgets_scalar _ _ _ _ _ _ _ kept, updateWidgets_scalar _ _ _ _ _ _ _ scalar]
    simp only [Widgets.forProperty_forProperty, and_self]

theorem checkMessage_header (host : Host) (device : BaseDevice) (root : Node) :
    (device.checkMessage host root).device.deviceName = device.deviceName ∧
      (device.checkMessage host root).device.mediator = device.mediator := by
  have same := (message_frame (checkMessage_cases host device root)).2
  simp only [header, Prod.mk.injEq] at same
  exact ⟨same.1, same.2.2⟩

theorem checkMessage_mediator (host : Host) (device : BaseDevice) (root : Node) :
    (device.checkMessage host root).device.mediator = device.mediator :=
  (checkMessage_header host device root).2

/-- Applying an update twice leaves the registry as applying it once, and returns the
same reply. -/
theorem setValue_idempotent (host : Host) (device : BaseDevice) (root : Element) (allocator : List Bool)
    (inline : ∀ child ∈ root.children, child.getAttribute "attached-data-id" = none) :
    ((device.setValue host root allocator).device.setValue host root allocator).device.pAll =
      (device.setValue host root allocator).device.pAll ∧
    ((device.setValue host root allocator).device.setValue host root allocator).result =
      (device.setValue host root allocator).result := by
  rcases named : root.getAttribute "name" with _ | name
  · simp only [setValue, named, and_self]
  rcases tagged : setTagType root.tag with _ | type
  · simp only [setValue, named, tagged, checkMessage_pAll, and_self]
  rcases found : (device.checkMessage host root.toNode).device.getProperty name type with _ | property
  · simp only [setValue, named, tagged, found, checkMessage_pAll, getProperty_checkMessage,
      (checkMessage_header _ _ _).1, and_self]
  have lookup : (device.checkMessage host root.toNode).device.pAll.find? (matchesLookup name type) =
      some property := found
  have selected : ∀ written : Property, written.shape = property.shape → matchesLookup name type written = true :=
    fun written same => (matchesLookup_of_shape same name type).trans (getProperty_mem found).2
  rcases stated : (root.getAttribute "state").bind crackIPState with _ | state
  · have again := getProperty_writeProperty found
      (selected { property with state := toIPState host (root.getAttribute "state") } rfl)
    simp only [setValue, named, tagged, found, stated, getProperty_checkMessage, again, and_true]
    exact writeProperty_again host root.toNode found (by exact selected _ rfl)
  generalize timedEq : (if toDoubleOk '.' (root.getAttribute "timeout") = true then
      { property with
        state := toIPState host (root.getAttribute "state")
        timeout := toDouble '.' (root.getAttribute "timeout") }
    else { property with state := toIPState host (root.getAttribute "state") }) = timed
  rcases updateWidgets_again host (device.checkMessage host root.toNode).device root name type timed allocator
    inline with fault | ⟨widgets, typed, wrote, again⟩
  · simp only [setValue, named, tagged, found, stated, timedEq, fault _ rfl, getProperty_checkMessage,
      fault _ (checkMessage_mediator _ _ _), checkMessage_pAll, and_self]
  · have shaped : timed.name = property.name ∧ timed.registered = property.registered ∧
        timed.widgets = property.widgets := by
      subst timedEq
      split <;> exact ⟨rfl, rfl, rfl⟩
    have reselected : matchesLookup name type { timed with widgets := widgets } = true :=
      selected _ (by simp only [Property.shape, Property.getType, typed, shaped])
    have found' := getProperty_writeProperty found reselected
    have retimed : (if toDoubleOk '.' (root.getAttribute "timeout") = true then
          { timed with
            state := toIPState host (root.getAttribute "state")
            timeout := toDouble '.' (root.getAttribute "timeout")
            widgets := widgets }
        else { timed with state := toIPState host (root.getAttribute "state"), widgets := widgets }) =
        { timed with widgets := widgets } := by
      subst timedEq
      by_cases ok : toDoubleOk '.' (root.getAttribute "timeout") = true <;> simp [ok]
    have rewritten := again ((checkMessage host ((checkMessage host device root.toNode).device.writeProperty name
      type { timed with widgets := widgets }) root.toNode).device) (checkMessage_mediator _ _ _)
    simp only [setValue, named, tagged, found, stated, timedEq, wrote, getProperty_checkMessage, found', retimed,
      rewritten, and_true]
    exact writeProperty_again host root.toNode found reselected

theorem blob_update_applied_twice :
    (∀ child ∈ (blobUpdate "QUJD" [("size", "3"), ("format", ".fits")] "QUJD").children,
      child.getAttribute "attached-data-id" = none) ∧
    ((((BaseDevice.empty.run Host.cLocale [.buildProp blobDefinition false]).1.setValue Host.cLocale
        (blobUpdate "QUJD" [("size", "3"), ("format", ".fits")] "QUJD") []).device.setValue Host.cLocale
        (blobUpdate "QUJD" [("size", "3"), ("format", ".fits")] "QUJD") []).device.pAll =
      ((BaseDevice.empty.run Host.cLocale [.buildProp blobDefinition false]).1.setValue Host.cLocale
        (blobUpdate "QUJD" [("size", "3"), ("format", ".fits")] "QUJD") []).device.pAll ∧
    (((BaseDevice.empty.run Host.cLocale [.buildProp blobDefinition false]).1.setValue Host.cLocale
        (blobUpdate "QUJD" [("size", "3"), ("format", ".fits")] "QUJD") []).device.setValue Host.cLocale
        (blobUpdate "QUJD" [("size", "3"), ("format", ".fits")] "QUJD") []).result =
      ((BaseDevice.empty.run Host.cLocale [.buildProp blobDefinition false]).1.setValue Host.cLocale
        (blobUpdate "QUJD" [("size", "3"), ("format", ".fits")] "QUJD") []).result) :=
  ⟨by decide, setValue_idempotent _ _ _ _ (by decide)⟩

end Indi
