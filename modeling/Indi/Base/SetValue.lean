import Indi.Base.Device

/-!
# Updates

`BaseDevice::setValue`: a `setXxxVector` element updates the registered property of
its name and kind in place, through the handle `getProperty` returns. The BLOB kind
goes through `BaseDevicePrivate::setBLOB`, which decodes each payload into the
widget's buffer: inline base64, a side-channel attachment taken over (`direct`) or
copied, and `zlib` inflation for a format ending in `.z`.
-/

set_option autoImplicit false

namespace Indi

/-- `setValue`'s `tagTypeName` table. -/
def setTagType : String → Option PropertyType
  | "setNumberVector" => some .number
  | "setSwitchVector" => some .switch
  | "setTextVector" => some .text
  | "setLightVector" => some .light
  | "setBLOBVector" => some .blob
  | _ => none

/-- What `setValue` comes to: a reply, or undefined behaviour (a null pointer used, or
memory read or written past its end). -/
inductive Status where
  | returned (reply : Reply)
  | fault
  deriving DecidableEq, Repr

/-!
## `for_property`
-/

/-! The four scalar kinds share `for_property`: each child of the element names a
widget; the first widget of that name, if any, takes the child's update. -/

/-- `for_property`. -/
def forProperty {α : Type} (nameOf : α → String) (apply : Node → α → α)
    (elements : List Node) (widgets : List α) : List α :=
  elements.foldl
    (fun current element =>
      updateFirst (fun widget => nameOf widget == valueText (element.getAttribute "name"))
        (apply element) current)
    widgets

/-- The `oneNumber` update, under `AutoCNumeric`: the value and, when present, `min`
and `max`, read with `'.'`. -/
def oneNumber (element : Node) (item : NumberWidget) : NumberWidget :=
  { item with
      value := toDouble '.' (some element.context)
      min := match element.getAttribute "min" with
        | some text => toDouble '.' (some text)
        | none => item.min
      max := match element.getAttribute "max" with
        | some text => toDouble '.' (some text)
        | none => item.max }

def oneSwitch (host : Host) (element : Node) (item : SwitchWidget) : SwitchWidget :=
  { item with state := toISState host (some element.context) }

def oneText (element : Node) (item : TextWidget) : TextWidget :=
  { item with text := element.context }

def oneLight (host : Host) (element : Node) (item : LightWidget) : LightWidget :=
  { item with state := toIPState host (some element.context) }

/-- The `switch` of `setValue` for the kinds that go through `for_property`. -/
def Widgets.forProperty (host : Host) (elements : List Node) : Widgets → Widgets
  | .number widgets => .number (Indi.forProperty (·.name) oneNumber elements widgets)
  | .switch widgets => .switch (Indi.forProperty (·.name) (oneSwitch host) elements widgets)
  | .text widgets => .text (Indi.forProperty (·.name) oneText elements widgets)
  | .light widgets => .light (Indi.forProperty (·.name) (oneLight host) elements widgets)
  | .blob widgets => .blob widgets

/-- The mediator call that ends a scalar update. -/
def Widgets.notification (name : String) : Widgets → Notification
  | .number _ => .newNumber name
  | .switch _ => .newSwitch name
  | .text _ => .newText name
  | .light _ => .newLight name
  | .blob _ => .newBLOB none

/-!
## Buffers
-/

/-! The allocator's outcomes are an input: each `malloc` or `realloc` takes the next
one, and an exhausted list succeeds. A fresh or grown buffer's new bytes read as `0`. -/

/-- The outcome of the next allocation, and the outcomes left. -/
def nextAllocation : List Bool → Bool × List Bool
  | [] => (true, [])
  | outcome :: rest => (outcome, rest)

/-- The bytes of `realloc(old, size)`: the old bytes up to `size`, then new ones. -/
def reallocBytes (old : Option Buffer) (size : Nat) : List UInt8 :=
  let bytes := (old.map (·.bytes)).getD []
  bytes.take size ++ List.replicate (size - bytes.length) 0

/-- `realloc(old, size)`: a heap buffer, or null when the allocation fails. -/
def realloc (old : Option Buffer) (size : Nat) (succeeds : Bool) : Option Buffer :=
  if succeeds then some ⟨.heap, reallocBytes old size⟩ else none

def originOf (blob : Option Buffer) : Option Origin :=
  blob.map (·.origin)

/-!
## One `oneBLOB` child
-/

/-- What `setBLOB` does besides writing widgets: allocator calls and `newBLOB`. -/
inductive BlobEvent where
  | memory (call : MemoryCall)
  | newBLOB (widget : Option String)
  deriving DecidableEq, Repr

def BlobEvent.toEvent : BlobEvent → Event
  | .memory call => .memory call
  | .newBLOB widget => .notify (.newBLOB widget)

theorem BlobEvent.toEvent_plain (event : BlobEvent) : event.toEvent.Plain := by
  cases event <;> simp [Event.Plain, BlobEvent.toEvent, Event.isLockOp, Event.isWatch]

/-- `setBLOB`'s state between children. -/
structure BlobState where
  widgets : List BlobWidget
  allocator : List Bool
  events : List BlobEvent

/-- Where one child leaves `setBLOB`: at the next child, returning, or in undefined
behaviour. -/
inductive BlobStep where
  | next (state : BlobState)
  | stop (reply : Reply) (state : BlobState)
  | fault

section Child

variable (host : Host) (mediator : Bool) (deviceName propertyName : String)

/-- The attachment-direct path: free the held buffer, take the side-channel one. -/
def attachDirect (id : String) (size : Int) (widget : BlobWidget) :
    BlobWidget × List BlobEvent :=
  let freed : BlobWidget × List BlobEvent :=
    match widget.blob with
    | some buffer => ({ widget with blobLen := 0 }, [.memory (.sharedFree (some buffer.origin))])
    | none => (widget, [])
  ({ freed.1 with blob := (host.sharedBlob id).map (Buffer.mk .shared), blobLen := size },
    freed.2 ++ [.memory (.attach id)])

/-- The attachment-copy path: `realloc` the held buffer, copy the side-channel buffer
into it, release the side-channel buffer. -/
def attachCopy (id : String) (size : Int) (succeeds : Bool) (widget : BlobWidget) :
    Option (BlobWidget × List BlobEvent) :=
  let count := sizeT size
  match realloc widget.blob count succeeds, host.sharedBlob id with
  | some buffer, some source =>
      if source.length < count then none
      else
        some ({ widget with blob := some { buffer with bytes := source.take count }, blobLen := size },
          [.memory (.realloc (originOf widget.blob)), .memory (.attach id),
            .memory (.sharedFree (some .shared))])
  | _, _ => none

/-- The inline path: `realloc` to three quarters of `element.context().size()`, the
child's text in bytes, then decode `root.context()`, the vector's own text, reading as
many bytes. -/
def inlineBase64 (root : Element) (element : Node) (succeeds : Bool) (widget : BlobWidget) :
    Option (BlobWidget × List BlobEvent) :=
  let encoded := element.context.length
  let capacity := 3 * encoded / 4
  let decoded := from64tobitsFast root.context.toList encoded
  let events := [BlobEvent.memory (.realloc (originOf widget.blob))]
  if root.context.length < encoded then none
  else
    match realloc widget.blob capacity succeeds with
    | none => if decoded.isEmpty then some ({ widget with blob := none, blobLen := 0 }, events) else none
    | some buffer =>
        if capacity < decoded.length then none
        else
          some ({ widget with
              blob := some { buffer with bytes := decoded ++ buffer.bytes.drop decoded.length }
              blobLen := decoded.length }, events)

/-- Where the work on one widget stands: done, returning with a reply (the widget as
written so far), or in undefined behaviour. -/
inductive WidgetStep where
  | done (widget : BlobWidget) (events : List BlobEvent)
  | stop (reply : Reply) (widget : BlobWidget) (events : List BlobEvent)
  | fault

/-- The `.z` path: strip the suffix, `malloc` the declared size, inflate the held bytes
into it and swap it in. `blobLen` is left as it was. -/
def inflate (format : String) (succeeds : Bool) (widget : BlobWidget) : WidgetStep :=
  let stripped := { widget with format := fit host.capacities.blobFormat (format.dropRight 2) }
  let capacity := sizeT widget.size
  if !succeeds then
    .stop ⟨.error, some "Unable to allocate memory for data buffer"⟩ stripped [.memory .malloc]
  else
    match widget.blob with
    | none => .fault
    | some source =>
        if source.bytes.length < sizeT widget.blobLen then .fault
        else
          match host.uncompress (source.bytes.take (sizeT widget.blobLen)) capacity with
          | .error code =>
              .stop ⟨.error, some ("INDI: " ++ deviceName ++ "." ++ propertyName ++ "." ++
                  widget.name ++ " compression error: " ++ toString code)⟩ stripped
                [.memory .malloc, .memory (.free (some .heap))]
          | .ok data =>
              if capacity < data.length then .fault
              else
                .done { stripped with
                    size := data.length
                    blob := some ⟨.heap, data ++ List.replicate (capacity - data.length) 0⟩ }
                  [.memory .malloc, .memory (.sharedFree (some source.origin))]

/-- The mediator call after a child, if a mediator is set. -/
def blobNotice (widget : Option BlobWidget) : List BlobEvent :=
  if mediator then [.newBLOB (widget.map (·.name))] else []

/-- Load a child's payload into the widget: by attachment (direct or copy) or inline;
the copy and inline paths take an allocation. -/
def loadPayload (root : Element) (element : Node) (allocator : List Bool) (size : Int)
    (widget : BlobWidget) : Option (BlobWidget × List BlobEvent × List Bool) :=
  match element.getAttribute "attached-data-id" with
  | some id =>
      match element.getAttribute "attachment-direct" with
      | some _ =>
          let attached := attachDirect host id size widget
          some (attached.1, attached.2, allocator)
      | none =>
          (attachCopy host id size (nextAllocation allocator).1 widget).map
            fun copied => (copied.1, copied.2, (nextAllocation allocator).2)
  | none =>
      (inlineBase64 root element (nextAllocation allocator).1 widget).map
        fun decoded => (decoded.1, decoded.2, (nextAllocation allocator).2)

/-- One `oneBLOB` child of `setBLOB`. -/
def oneBLOB (root : Element) (element : Node) (state : BlobState) : BlobStep :=
  let name := element.getAttribute "name"
  let format := element.getAttribute "format"
  let size := element.getAttribute "size"
  let write (widget : BlobWidget) : List BlobWidget :=
    updateFirst (·.name == valueText name) (fun _ => widget) state.widgets
  if name.isNone || format.isNone || size.isNone then
    .stop ⟨.error, some ("INDI: " ++ deviceName ++ "." ++ propertyName ++ "." ++ valueText name ++
      " No valid members.")⟩ state
  else if toInt size = 0 then
    .next { state with events := state.events ++ blobNotice mediator (state.widgets.find? (·.name == valueText name)) }
  else
    match state.widgets.find? (·.name == valueText name) with
    | none => .fault
    | some widget =>
        match loadPayload host root element state.allocator (toInt size) { widget with size := toInt size } with
        | none => .fault
        | some (loaded, loadEvents, allocator) =>
            if endsWith (valueText format) ".z" then
              match inflate host deviceName propertyName (valueText format)
                  (nextAllocation allocator).1 loaded with
              | .fault => .fault
              | .stop reply written events =>
                  .stop reply ⟨write written, (nextAllocation allocator).2,
                    state.events ++ loadEvents ++ events⟩
              | .done inflated events =>
                  .next ⟨write inflated, (nextAllocation allocator).2,
                    state.events ++ loadEvents ++ events ++ blobNotice mediator (some inflated)⟩
            else
              let formatted := { loaded with format := fit host.capacities.blobFormat (valueText format) }
              .next ⟨write formatted, allocator, state.events ++ loadEvents ++ blobNotice mediator (some formatted)⟩

/-- The loop of `setBLOB` over the `oneBLOB` children; it returns `0` after the last. -/
def setBLOBChildren (root : Element) : List Node → BlobState → BlobStep
  | [], state => .stop ⟨.ok, none⟩ state
  | element :: rest, state =>
      match oneBLOB host mediator deviceName propertyName root element state with
      | .next state => setBLOBChildren root rest state
      | step => step

/-- `BaseDevicePrivate::setBLOB` on the property's widgets. -/
def setBLOB (root : Element) (widgets : List BlobWidget) (allocator : List Bool) : BlobStep :=
  setBLOBChildren host mediator deviceName propertyName root (root.getElementsByTagName "oneBLOB")
    ⟨widgets, allocator, []⟩

end Child

/-!
## `setValue`
-/

namespace BaseDevice

/-- A write through the handle `getProperty name type` returned: the first match
becomes `property`. -/
def writeProperty (device : BaseDevice) (name : String) (type : PropertyType)
    (property : Property) : BaseDevice :=
  { device with pAll := updateFirst (matchesLookup name type) (fun _ => property) device.pAll }

/-- The kind-specific part of `setValue` on the property found at `name` and `type`,
state and timeout already written: `for_property` and the mediator call, or `setBLOB`. -/
def updateWidgets (host : Host) (device : BaseDevice) (root : Element) (name : String)
    (type : PropertyType) (property : Property) (allocator : List Bool) : Outcome Status :=
  match property.widgets with
  | .blob widgets =>
      match setBLOB host device.mediator property.device property.name root widgets allocator with
      | .stop reply state =>
          ⟨.returned reply, device.writeProperty name type { property with widgets := .blob state.widgets },
            state.events.map BlobEvent.toEvent⟩
      | _ => ⟨.fault, device, []⟩
  | widgets =>
      let updated := { property with widgets := widgets.forProperty host root.getElements }
      ⟨.returned ⟨.ok, none⟩, device.writeProperty name type updated,
        .emitUpdate property.name ::
          if device.mediator then [.notify (widgets.notification property.name)] else []⟩

/-- `BaseDevice::setValue`. -/
def setValue (host : Host) (device : BaseDevice) (root : Element) (allocator : List Bool) :
    Outcome Status :=
  match root.getAttribute "name" with
  | none =>
      ⟨.returned ⟨.error, some ("INDI: <" ++ root.tag ++ "> unable to find name attribute")⟩, device, []⟩
  | some propertyName =>
      let checked := device.checkMessage host root.toNode
      match setTagType root.tag with
      | none =>
          ⟨.returned ⟨.error, some ("INDI: <" ++ root.tag ++ "> Unable to process tag")⟩,
            checked.device, checked.events⟩
      | some type =>
          match checked.device.getProperty propertyName type with
          | none =>
              ⟨.returned ⟨.error, some ("INDI: Could not find property " ++ propertyName ++ " in " ++
                  checked.device.deviceName)⟩, checked.device, checked.events ++ locked⟩
          | some property =>
              let state := root.getAttribute "state"
              let stated := { property with state := toIPState host state }
              match state.bind crackIPState with
              | none =>
                  ⟨.returned ⟨.error, some ("INDI: <" ++ root.tag ++ "> bogus state " ++
                      valueText state ++ " for " ++ propertyName)⟩,
                    checked.device.writeProperty propertyName type stated, checked.events ++ locked⟩
              | some _ =>
                  let timeout := root.getAttribute "timeout"
                  let timed :=
                    if toDoubleOk '.' timeout then { stated with timeout := toDouble '.' timeout } else stated
                  let updated := checked.device.updateWidgets host root propertyName type timed allocator
                  { updated with events := checked.events ++ locked ++ updated.events }

/-!
## Frame
-/

/-! `setValue` writes only through the handle of the property it found. A write changes
only the state, the timeout and the widgets' value fields, so it keeps the `frame` that
clears them, and with it the entry's name, type and registered flag. -/

end BaseDevice

/-- What an update keeps of a Number: all but the value, the minimum and the maximum. -/
def NumberWidget.frame (widget : NumberWidget) : NumberWidget :=
  { widget with value := 0, min := 0, max := 0 }

/-- What an update keeps of a Switch: all but the state. -/
def SwitchWidget.frame (widget : SwitchWidget) : SwitchWidget :=
  { widget with state := .off }

/-- What an update keeps of a Text: all but the text. -/
def TextWidget.frame (widget : TextWidget) : TextWidget :=
  { widget with text := "" }

/-- What an update keeps of a Light: all but the state. -/
def LightWidget.frame (widget : LightWidget) : LightWidget :=
  { widget with state := .idle }

/-- What an update keeps of a BLOB: all but the buffer, its lengths and the format. -/
def BlobWidget.frame (widget : BlobWidget) : BlobWidget :=
  { widget with format := "", blob := none, blobLen := 0, size := 0 }

/-- The frames of the widgets, in order. -/
def Widgets.frame : Widgets → Widgets
  | .number widgets => .number (widgets.map NumberWidget.frame)
  | .switch widgets => .switch (widgets.map SwitchWidget.frame)
  | .text widgets => .text (widgets.map TextWidget.frame)
  | .light widgets => .light (widgets.map LightWidget.frame)
  | .blob widgets => .blob (widgets.map BlobWidget.frame)

/-- What an update keeps of a property: all but the state, the timeout and the widgets'
value fields. -/
def Property.frame (property : Property) : Property :=
  { property with state := .idle, timeout := 0, widgets := property.widgets.frame }

theorem Widgets.type_frame (widgets : Widgets) : widgets.frame.type = widgets.type := by
  cases widgets <;> rfl

theorem Property.shape_eq_of_frame_eq {property other : Property}
    (same : property.frame = other.frame) : property.shape = other.shape := by
  have name := congrArg Property.name same
  have registered := congrArg Property.registered same
  have type := congrArg (·.widgets.type) same
  simp only [Property.frame, Widgets.type_frame] at name registered type
  simp only [Property.shape, Property.getType, name, registered, type]

theorem forProperty_map {α β : Type} (nameOf : α → String) (apply : Node → α → α) (key : α → β)
    (keeps : ∀ element item, key (apply element item) = key item) (elements : List Node)
    (widgets : List α) :
    (forProperty nameOf apply elements widgets).map key = widgets.map key := by
  induction elements generalizing widgets with
  | nil => rfl
  | cons element rest ih => exact (ih _).trans (map_updateFirst _ _ _ (keeps element) widgets)

theorem Widgets.frame_forProperty (host : Host) (elements : List Node) (widgets : Widgets) :
    (widgets.forProperty host elements).frame = widgets.frame := by
  cases widgets <;> simp only [Widgets.forProperty, Widgets.frame] <;>
    exact congrArg _ (forProperty_map _ _ _ (fun _ _ => by rfl) _ _)

theorem Widgets.type_forProperty (host : Host) (elements : List Node) (widgets : Widgets) :
    (widgets.forProperty host elements).type = widgets.type := by
  cases widgets <;> rfl

section BlobFrame

variable {host : Host} {mediator : Bool} {deviceName propertyName : String} {root : Element}

theorem frame_attachDirect (id : String) (size : Int) (widget : BlobWidget) :
    (attachDirect host id size widget).1.frame = widget.frame := by
  unfold attachDirect
  split <;> rfl

theorem frame_attachCopy {id : String} {size : Int} {succeeds : Bool} {widget copied : BlobWidget}
    {events : List BlobEvent} (copies : attachCopy host id size succeeds widget = some (copied, events)) :
    copied.frame = widget.frame := by
  unfold attachCopy at copies
  dsimp only at copies
  repeat' split at copies
  all_goals cases copies <;> rfl

theorem frame_inlineBase64 {element : Node} {succeeds : Bool} {widget decoded : BlobWidget}
    {events : List BlobEvent} (decodes : inlineBase64 root element succeeds widget = some (decoded, events)) :
    decoded.frame = widget.frame := by
  unfold inlineBase64 at decodes
  dsimp only at decodes
  repeat' split at decodes
  all_goals cases decodes <;> rfl

theorem frame_loadPayload {element : Node} {allocator : List Bool} {size : Int}
    {widget loaded : BlobWidget} {events : List BlobEvent} {rest : List Bool}
    (loads : loadPayload host root element allocator size widget = some (loaded, events, rest)) :
    loaded.frame = widget.frame := by
  unfold loadPayload at loads
  split at loads
  · split at loads
    · cases loads
      exact frame_attachDirect _ _ _
    · obtain ⟨⟨copied, _⟩, copies, same⟩ := Option.map_eq_some'.mp loads
      cases same
      exact frame_attachCopy copies
  · obtain ⟨⟨decoded, _⟩, decodes, same⟩ := Option.map_eq_some'.mp loads
    cases same
    exact frame_inlineBase64 decodes

theorem frame_of_inflate_done {format : String} {succeeds : Bool} {widget inflated : BlobWidget}
    {events : List BlobEvent}
    (done : inflate host deviceName propertyName format succeeds widget = .done inflated events) :
    inflated.frame = widget.frame := by
  unfold inflate at done
  dsimp only at done
  repeat' split at done
  all_goals cases done <;> rfl

theorem frame_of_inflate_stop {format : String} {succeeds : Bool} {widget written : BlobWidget}
    {reply : Reply} {events : List BlobEvent}
    (stop : inflate host deviceName propertyName format succeeds widget = .stop reply written events) :
    written.frame = widget.frame := by
  unfold inflate at stop
  dsimp only at stop
  repeat' split at stop
  all_goals cases stop <;> rfl

theorem frame_write {widgets : List BlobWidget} {name : String} {widget written : BlobWidget}
    (found : widgets.find? (·.name == name) = some widget) (same : written.frame = widget.frame) :
    (updateFirst (·.name == name) (fun _ => written) widgets).map BlobWidget.frame =
      widgets.map BlobWidget.frame :=
  map_updateFirst_of_find? _ _ _ _ fun item located => by
    cases Option.some.inj (located.symm.trans found)
    exact same

theorem oneBLOB_frame {element : Node} {state after : BlobState}
    (continues : oneBLOB host mediator deviceName propertyName root element state = .next after ∨
      ∃ reply, oneBLOB host mediator deviceName propertyName root element state = .stop reply after) :
    after.widgets.map BlobWidget.frame = state.widgets.map BlobWidget.frame := by
  unfold oneBLOB at continues
  dsimp only at continues
  split at continues
  · rcases continues with stepped | ⟨_, stepped⟩ <;> cases stepped
    rfl
  split at continues
  · rcases continues with stepped | ⟨_, stepped⟩ <;> cases stepped
    rfl
  split at continues
  · rcases continues with stepped | ⟨_, stepped⟩ <;> cases stepped
  rename_i widget found
  split at continues
  · rcases continues with stepped | ⟨_, stepped⟩ <;> cases stepped
  rename_i loaded loadEvents allocator loads
  have loadedFrame : loaded.frame = widget.frame := (frame_loadPayload loads).trans rfl
  split at continues
  · split at continues
    · rcases continues with stepped | ⟨_, stepped⟩ <;> cases stepped
    · rename_i inflated events stop
      rcases continues with stepped | ⟨_, stepped⟩ <;> cases stepped
      exact frame_write found ((frame_of_inflate_stop stop).trans loadedFrame)
    · rename_i inflated events done
      rcases continues with stepped | ⟨_, stepped⟩ <;> cases stepped
      exact frame_write found ((frame_of_inflate_done done).trans loadedFrame)
  · rcases continues with stepped | ⟨_, stepped⟩ <;> cases stepped
    exact frame_write found loadedFrame

theorem setBLOBChildren_frame {elements : List Node} {state after : BlobState} {reply : Reply}
    (stop : setBLOBChildren host mediator deviceName propertyName root elements state = .stop reply after) :
    after.widgets.map BlobWidget.frame = state.widgets.map BlobWidget.frame := by
  induction elements generalizing state with
  | nil => cases stop; rfl
  | cons element rest ih =>
      simp only [setBLOBChildren] at stop
      cases stepped : oneBLOB host mediator deviceName propertyName root element state with
      | next next =>
          simp only [stepped] at stop
          exact (ih stop).trans (oneBLOB_frame (.inl stepped))
      | stop => simp only [stepped, BlobStep.stop.injEq] at stop
                obtain ⟨rfl, rfl⟩ := stop
                exact oneBLOB_frame (.inr ⟨_, stepped⟩)
      | fault => simp only [stepped, reduceCtorEq] at stop

end BlobFrame

namespace BaseDevice

theorem writeProperty_map {β : Type} (key : Property → β) {device : BaseDevice} {name : String}
    {type : PropertyType} {found property : Property} (lookup : device.getProperty name type = some found)
    (same : key property = key found) :
    (device.writeProperty name type property).pAll.map key = device.pAll.map key :=
  map_updateFirst_of_find? _ _ _ _ fun item located => by
    cases Option.some.inj (located.symm.trans lookup)
    exact same

theorem updateWidgets_device (host : Host) (device : BaseDevice) (root : Element) (name : String)
    (type : PropertyType) (property : Property) (allocator : List Bool) :
    (device.updateWidgets host root name type property allocator).device = device ∨
    ∃ written, written.frame = property.frame ∧
      (device.updateWidgets host root name type property allocator).device =
        device.writeProperty name type written := by
  unfold updateWidgets
  split
  · rename_i widgets kind
    split
    · rename_i stop
      refine .inr ⟨_, ?_, rfl⟩
      simp only [Property.frame, kind, Widgets.frame, setBLOBChildren_frame stop]
    · exact .inl rfl
  · exact .inr ⟨_, by simp only [Property.frame, Widgets.frame_forProperty], rfl⟩

theorem setValue_device (host : Host) (device : BaseDevice) (root : Element) (allocator : List Bool) :
    let checked := (device.checkMessage host root.toNode).device
    (device.setValue host root allocator).device = device ∨
    (device.setValue host root allocator).device = checked ∨
    ∃ name type found written, root.getAttribute "name" = some name ∧ setTagType root.tag = some type ∧
      checked.getProperty name type = some found ∧ written.frame = found.frame ∧
      (device.setValue host root allocator).device = checked.writeProperty name type written := by
  intro checked
  unfold setValue
  dsimp only
  split
  · exact .inl rfl
  · rename_i propertyName named
    split
    · exact .inr (.inl rfl)
    · rename_i type tagged
      split
      · exact .inr (.inl rfl)
      · rename_i property found
        split
        · exact .inr (.inr ⟨propertyName, type, property, _, named, tagged, found, by rfl, rfl⟩)
        · rcases updateWidgets_device host checked root propertyName type _ allocator with
            unchanged | ⟨written, same, wrote⟩
          · exact .inr (.inl unchanged)
          · refine .inr (.inr ⟨propertyName, type, property, written, named, tagged, found, ?_, wrote⟩)
            rw [same]
            split <;> rfl

theorem setValue_frame (host : Host) (device : BaseDevice) (root : Element) (allocator : List Bool) :
    let after := (device.setValue host root allocator).device
    after.deviceName = device.deviceName ∧ after.watchPropertyMap = device.watchPropertyMap ∧
    after.mediator = device.mediator ∧
    after.pAll.map Property.shape = device.pAll.map Property.shape ∧
    (after.messageLog = device.messageLog ∨ ∃ message, after.messageLog = device.messageLog ++ [message]) := by
  intro after
  have logged : ∃ log, (device.checkMessage host root.toNode).device = { device with messageLog := log } ∧
      (log = device.messageLog ∨ ∃ message, log = device.messageLog ++ [message]) := by
    rcases checkMessage_cases host device root.toNode with same | ⟨message, added⟩
    · exact ⟨_, by rw [same], .inl rfl⟩
    · exact ⟨_, by rw [added, addMessage_device], .inr ⟨message, rfl⟩⟩
  obtain ⟨log, checked, grown⟩ := logged
  rcases setValue_device host device root allocator with
    same | same | ⟨name, type, found, written, -, -, lookup, kept, wrote⟩
  · simp [after, same]
  · rw [checked] at same
    simpa only [after, same, true_and] using grown
  · have shapes := writeProperty_map Property.shape lookup (Property.shape_eq_of_frame_eq kept)
    rw [checked] at shapes wrote
    simp only [after, wrote]
    exact ⟨rfl, rfl, rfl, shapes, grown⟩

theorem updateWidgets_events (host : Host) (device : BaseDevice) (root : Element) (name : String)
    (type : PropertyType) (property : Property) (allocator : List Bool) :
    ∀ event ∈ (device.updateWidgets host root name type property allocator).events, event.Plain := by
  unfold updateWidgets
  split
  · split
    · simp only [List.mem_map]
      rintro _ ⟨event, -, rfl⟩
      exact event.toEvent_plain
    · simp
  · intro event member
    simp only [List.mem_cons] at member
    split at member <;> simp at member <;> rcases member with rfl | rfl <;>
      simp [Event.Plain, Event.isLockOp, Event.isWatch]

theorem setValue_events (host : Host) (device : BaseDevice) (root : Element) (allocator : List Bool) :
    let events := (device.setValue host root allocator).events
    let checked := (device.checkMessage host root.toNode).events
    events = [] ∨ events = checked ∨
      ∃ tail, (∀ event ∈ tail, event.Plain) ∧ events = checked ++ locked ++ tail := by
  intro events checked
  unfold events setValue
  dsimp only
  split
  · exact .inl rfl
  · split
    · exact .inr (.inl rfl)
    · split
      · exact .inr (.inr ⟨[], by simp, by simp [checked]⟩)
      · split
        · exact .inr (.inr ⟨[], by simp, by simp [checked]⟩)
        · refine .inr (.inr ⟨_, ?_, rfl⟩)
          exact updateWidgets_events host _ root _ _ _ allocator

end BaseDevice

end Indi
