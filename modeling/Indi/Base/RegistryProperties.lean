import Indi.Base.Run
import Mathlib.Data.List.Nodup

/-!
# Registry properties

What `pAll` can hold after any run of calls, how watch callbacks follow insertions,
and where the by-name accessors agree with `getProperty`.
-/

set_option autoImplicit false

namespace Indi

open BaseDevice

/-!
## Registered entries
-/

/-! `buildProp` looks for a registered entry of the name, of any type;
`registerProperty` for a registered entry of the name and the handed-in type. Only
registered entries are kept apart, and only by name and type together. -/

def registeredKeys (pAll : List Property) : List (String × PropertyType) :=
  (pAll.map Property.shape).filterMap fun shape =>
    if shape.2.2 then some (shape.1, shape.2.1) else none

/-- No two registered entries share a name and a type. -/
def RegisteredUnique (pAll : List Property) : Prop :=
  (registeredKeys pAll).Nodup

/-- A definition whose name, in bytes, leaves room in the property-name array for
`indi_strlcpy`'s terminating zero, so that the name stored is the name looked up. -/
def Call.NameFits (host : Host) : Call → Prop
  | .buildProp root _ => (valueText (root.getAttribute "name")).length < host.capacities.name
  | _ => True

instance (pAll : List Property) : Decidable (RegisteredUnique pAll) :=
  inferInstanceAs (Decidable (registeredKeys pAll).Nodup)

instance (host : Host) : DecidablePred (Call.NameFits host) := fun call => by
  cases call <;> unfold Call.NameFits <;> infer_instance

/-- A property as a driver hands it to `registerProperty`: named, of its widgets' kind,
everything else zero. -/
def handedIn (name : String) (registered : Bool) (widgets : Widgets) : Property where
  name := name
  label := ""
  group := ""
  device := ""
  permission := .ro
  state := .idle
  timeout := 0
  registered := registered
  dynamic := false
  widgets := widgets

def numberDefinition (device name : String) : Element where
  tag := "defNumberVector"
  attributes := [("device", device), ("name", name), ("perm", "rw"), ("state", "Idle")]
  context := ""
  children := [{ tag := "defNumber", attributes := [("name", "x"), ("min", "0.5")], context := "1" }]

theorem mem_registeredKeys {pAll : List Property} {name : String} {type : PropertyType} :
    (name, type) ∈ registeredKeys pAll ↔
      ∃ property ∈ pAll, property.registered ∧ property.name = name ∧ property.getType = type := by
  simp only [registeredKeys, List.mem_filterMap, List.mem_map, Property.shape]
  constructor
  · rintro ⟨_, ⟨property, member, rfl⟩, found⟩
    split at found
    · simp only [Option.some.injEq, Prod.mk.injEq] at found
      exact ⟨property, member, ‹_›, found⟩
    · cases found
  · rintro ⟨property, member, registered, rfl, rfl⟩
    exact ⟨_, ⟨property, member, rfl⟩, by simp [registered]⟩

theorem not_mem_registeredKeys {device : BaseDevice} {name : String} {lookup type : PropertyType}
    (absent : device.getProperty name lookup = none) (covers : lookup = type ∨ lookup = .unknown) :
    (name, type) ∉ registeredKeys device.pAll := by
  rw [mem_registeredKeys]
  rintro ⟨property, member, registered, rfl, rfl⟩
  have rejected := getProperty_eq_none_iff.mp absent property member
  rcases covers with rfl | rfl <;> simp [matchesLookup, Property.isNameMatch, registered] at rejected

theorem registeredKeys_append (pAll : List Property) (property : Property) :
    registeredKeys (pAll ++ [property]) =
      registeredKeys pAll ++
        if property.registered then [(property.name, property.getType)] else [] := by
  cases registered : property.registered <;> simp [registeredKeys, Property.shape, registered]

theorem RegisteredUnique.append {pAll : List Property} {property : Property}
    (unique : RegisteredUnique pAll)
    (fresh : property.registered → (property.name, property.getType) ∉ registeredKeys pAll) :
    RegisteredUnique (pAll ++ [property]) := by
  unfold RegisteredUnique
  rw [registeredKeys_append]
  cases registered : property.registered
  · simpa using unique
  · refine List.nodup_append.mpr ⟨unique, List.nodup_singleton _, fun key member single => ?_⟩
    rw [List.mem_singleton.mp single] at member
    exact fresh registered member

theorem RegisteredUnique.filter {pAll : List Property} (unique : RegisteredUnique pAll)
    (keep : Property → Bool) : RegisteredUnique (pAll.filter keep) :=
  unique.sublist (((List.filter_sublist pAll).map _).filterMap _)

theorem RegisteredUnique.of_shapes {before after : List Property}
    (same : after.map Property.shape = before.map Property.shape) (unique : RegisteredUnique before) :
    RegisteredUnique after := by
  unfold RegisteredUnique registeredKeys
  rw [same]
  exact unique

theorem registerAt_registeredUnique (device : BaseDevice) (property : Property)
    (unique : RegisteredUnique device.pAll) :
    RegisteredUnique (device.registerAt property property.getType).1.pAll := by
  rcases registerAt_cases device property property.getType with ⟨_, same⟩ | ⟨absent, appended⟩
  · rw [same]
    exact unique
  · rw [appended, addProperty_fst]
    exact unique.append fun _ => not_mem_registeredKeys absent (.inl rfl)

theorem buildProp_registeredUnique (host : Host) (device : BaseDevice) (root : Element)
    (isDynamic : Bool) (fits : (valueText (root.getAttribute "name")).length < host.capacities.name)
    (unique : RegisteredUnique device.pAll) :
    RegisteredUnique (device.buildProp host root isDynamic).device.pAll := by
  rcases buildProp_cases host device root isDynamic with
    ⟨same, -⟩ | ⟨same, -⟩ | ⟨type, widgets, -, -, absent, built, -, ⟨-, bound, -⟩ | ⟨-, added, -⟩⟩
  · rw [same]; exact unique
  · rw [same]; exact unique
  · rw [bound, bindName_pAll]; exact unique
  · rw [added, addProperty_fst, bindName_pAll]
    refine unique.append fun _ => ?_
    simp only [definedProperty, Node.fitted, fit_of_lt fits, Property.getType, defWidgets_type built]
    exact not_mem_registeredKeys absent (.inr rfl)

theorem step_registeredUnique (host : Host) (device : BaseDevice) (call : Call)
    (fits : call.NameFits host) (unique : RegisteredUnique device.pAll) :
    RegisteredUnique (device.step host call).1.pAll := by
  cases call with
  | buildProp root isDynamic => exact buildProp_registeredUnique host device root isDynamic fits unique
  | setValue root allocator => exact unique.of_shapes (setValue_frame host device root allocator).2.2.2.1
  | registerProperty vector | registerVector vector =>
      rw [step_register host device vector (by simp)]
      rcases registerProperty_cases device vector with same | ⟨property, same⟩ <;> rw [same]
      exacts [unique, registerAt_registeredUnique device property unique]
  | removeProperty name =>
      simp only [step, removeProperty_device]
      exact unique.filter _
  | addMessage message => exact unique
  | doMessage message => exact (message_frame (doMessage_cases host device message)).1 ▸ unique
  | checkMessage root => exact (message_frame (checkMessage_cases host device root)).1 ▸ unique
  | _ => exact unique

/-- Across every run from an empty registry whose definitions' names fit the name
array, no two registered entries of `pAll` share a name and a type. -/
theorem registered_entries_unique (host : Host) (calls : List Call)
    (fits : ∀ call ∈ calls, call.NameFits host) :
    RegisteredUnique (BaseDevice.empty.run host calls).1.pAll :=
  run_preserves host (Call.NameFits host) (fun device => RegisteredUnique device.pAll)
    (step_registeredUnique host)
    BaseDevice.empty calls fits List.nodup_nil

theorem registered_entries_unique_after_definition :
    (∀ call ∈ [Call.buildProp (numberDefinition "D" "FOO") false,
        .registerProperty (some (handedIn "FOO" true (.number [])))], call.NameFits Host.cLocale) ∧
    RegisteredUnique (BaseDevice.empty.run Host.cLocale [.buildProp (numberDefinition "D" "FOO") false,
        .registerProperty (some (handedIn "FOO" true (.number [])))]).1.pAll :=
  ⟨by decide, registered_entries_unique Host.cLocale _ (by decide)⟩

/-- Forty `é` are eighty bytes: the name does not fit, and its second definition is kept
beside the first. -/
example : ¬ (Call.buildProp (numberDefinition "D" (utf8Bytes ⟨List.replicate 40 'é'⟩)) false).NameFits Host.cLocale ∧
    (BaseDevice.empty.run Host.cLocale [.buildProp (numberDefinition "D" (utf8Bytes ⟨List.replicate 40 'é'⟩)) false,
      .buildProp (numberDefinition "D" (utf8Bytes ⟨List.replicate 40 'é'⟩)) false]).1.pAll.length = 2 := by
  set_option maxRecDepth 20000 in decide

/-- A name cut to the array escapes the lookup made with the full name: with room for
one character, `AB` is stored as `A`, beside the `A` defined before. -/
example :
    ¬ RegisteredUnique (BaseDevice.empty.run { Host.cLocale with capacities.name := 2 }
      [.buildProp (numberDefinition "D" "A") false, .buildProp (numberDefinition "D" "AB") false]).1.pAll := by
  decide

/-- Registering a Number and then a Switch of one name keeps both. -/
theorem same_name_entries_of_two_kinds :
    ¬ ((BaseDevice.empty.run Host.cLocale [.registerProperty (some (handedIn "A" true (.number []))),
        .registerProperty (some (handedIn "A" true (.switch [])))]).1.pAll.map Property.name).Nodup := by
  decide

/-!
## Watches
-/

/-! `addProperty` looks the watch table up after every append and nothing erases an
entry, so a watch runs at every insertion of its name until `watchProperty` replaces
it. -/

theorem addMessage_no_watch (device : BaseDevice) (message : String) :
    (device.addMessage message).events.filter Event.isWatch = [] := by
  rw [addMessage_events]
  split <;> simp [locked, Event.isWatch]

theorem message_no_watch {device : BaseDevice} {outcome : Outcome Unit}
    (either : outcome = ⟨(), device, []⟩ ∨ ∃ message, outcome = device.addMessage message) :
    outcome.events.filter Event.isWatch = [] := by
  rcases either with rfl | ⟨message, rfl⟩
  · rfl
  · exact addMessage_no_watch device message

theorem setValue_no_watch (host : Host) (device : BaseDevice) (root : Element) (allocator : List Bool) :
    (device.setValue host root allocator).events.filter Event.isWatch = [] := by
  rcases setValue_events host device root allocator with same | same | ⟨tail, plain, same⟩ <;>
    rw [same]
  · rfl
  · exact message_no_watch (checkMessage_cases host device root.toNode)
  · have quiet : tail.filter Event.isWatch = [] :=
      List.filter_eq_nil_iff.mpr fun event member => by simp [(plain event member).2]
    simp [message_no_watch (checkMessage_cases host device root.toNode), quiet, locked,
      Event.isWatch]

theorem registerAt_insertion (device : BaseDevice) (property : Property) (type : PropertyType) :
    let after := device.registerAt property type
    (after.1.pAll = device.pAll ++ [property] ∧
      after.2.filter Event.isWatch =
        (device.watchPropertyMap property.name).toList.map (.watch property.name)) ∨
    (after.1.pAll = device.pAll ∧ after.2.filter Event.isWatch = []) := by
  rcases registerAt_cases device property type with ⟨_, same⟩ | ⟨_, appended⟩
  · exact .inr (by simp [same, locked, Event.isWatch])
  · refine .inl ⟨by simp [appended, addProperty_fst], ?_⟩
    simp only [appended, List.filter_append, addProperty_watches]
    rfl

theorem buildProp_insertion (host : Host) (device : BaseDevice) (root : Element) (isDynamic : Bool) :
    let after := device.buildProp host root isDynamic
    (∃ property, after.device.pAll = device.pAll ++ [property] ∧
      after.events.filter Event.isWatch =
        (device.watchPropertyMap property.name).toList.map (.watch property.name)) ∨
    (after.device.pAll = device.pAll ∧ after.events.filter Event.isWatch = []) := by
  rcases buildProp_cases host device root isDynamic with
    ⟨same, events, -⟩ | ⟨same, events, -⟩ |
      ⟨type, widgets, -, -, -, -, -, ⟨-, bound, events⟩ | ⟨-, added, events⟩⟩
  · exact .inr ⟨by rw [same], by rw [events]; rfl⟩
  · exact .inr ⟨by rw [same], by rw [events]; rfl⟩
  · exact .inr ⟨by rw [bound, bindName_pAll], by rw [events]; rfl⟩
  · refine .inl ⟨_, by rw [added, addProperty_fst, bindName_pAll], ?_⟩
    rw [events, List.filter_append, List.filter_append, addProperty_watches,
      bindName_watchPropertyMap]
    split <;> simp [locked, Event.isWatch]

theorem step_insertion (host : Host) (device : BaseDevice) (call : Call) :
    let after := device.step host call
    (∃ property, after.1.pAll = device.pAll ++ [property] ∧
      after.2.filter Event.isWatch =
        (device.watchPropertyMap property.name).toList.map (.watch property.name)) ∨
    (after.1.pAll.length ≤ device.pAll.length ∧ after.2.filter Event.isWatch = []) := by
  cases call with
  | buildProp root isDynamic =>
      rcases buildProp_insertion host device root isDynamic with inserted | ⟨same, quiet⟩
      · exact .inl inserted
      · exact .inr ⟨by simp [step, same], quiet⟩
  | setValue root allocator =>
      refine .inr ⟨?_, setValue_no_watch host device root allocator⟩
      have shapes := congrArg List.length (setValue_frame host device root allocator).2.2.2.1
      simp only [List.length_map] at shapes
      simp [step, shapes]
  | registerProperty vector | registerVector vector =>
      rw [step_register host device vector (by simp)]
      rcases registerProperty_cases device vector with same | ⟨property, same⟩ <;> rw [same]
      · exact .inr ⟨le_refl _, rfl⟩
      · rcases registerAt_insertion device property property.getType with inserted | ⟨same, quiet⟩
        · exact .inl ⟨property, inserted⟩
        · exact .inr ⟨by rw [same], quiet⟩
  | removeProperty name =>
      exact .inr ⟨by simp [step, removeProperty_device, List.length_filter_le],
        by simp [step, removeProperty_events, locked, Event.isWatch]⟩
  | addMessage message => exact .inr ⟨le_refl _, addMessage_no_watch device message⟩
  | doMessage message =>
      have either := doMessage_cases host device message
      exact .inr ⟨(congrArg List.length (message_frame either).1).le, message_no_watch either⟩
  | checkMessage root =>
      have either := checkMessage_cases host device root
      exact .inr ⟨(congrArg List.length (message_frame either).1).le, message_no_watch either⟩
  | _ => exact .inr ⟨le_refl _, by simp [step, locked, Event.isWatch]⟩

theorem step_watchPropertyMap (host : Host) (device : BaseDevice) (call : Call)
    (unwatched : ∀ name callback, call ≠ .watchProperty name callback) :
    (device.step host call).1.watchPropertyMap = device.watchPropertyMap := by
  by_cases keeps : call.keepsHeader = true
  · exact congrArg (·.2.1) (step_header host device call keeps)
  cases call with
  | buildProp root isDynamic => exact (buildProp_header host device root isDynamic).1
  | watchProperty name callback => exact absurd rfl (unwatched name callback)
  | setDeviceName _ | setMediator _ => rfl
  | _ => exact absurd rfl keeps

theorem buildProp_newProperty_last (host : Host) (device : BaseDevice) (root : Element)
    (isDynamic : Bool) (name : String)
    (notified : Event.notify (.newProperty name) ∈ (device.buildProp host root isDynamic).events) :
    (device.buildProp host root isDynamic).events.getLast? = some (.notify (.newProperty name)) := by
  rcases buildProp_cases host device root isDynamic with
    ⟨-, events, -⟩ | ⟨-, events, -⟩ |
      ⟨type, widgets, -, -, -, -, -, ⟨-, -, events⟩ | ⟨-, -, events⟩⟩ <;>
    rw [events] at notified ⊢
  · simp at notified
  · simp [locked] at notified
  · simp [locked] at notified
  · cases mediator : device.mediator <;> simp only [mediator] at notified ⊢
    · simp [addProperty, locked] at notified
    · simp only [if_true, List.mem_append, List.mem_singleton] at notified
      rcases notified with (member | member) | same
      · simp [locked] at member
      · simp [addProperty, locked] at member
      · simp [same]

/-- A call that appends a property runs, once, the watch then registered for its name,
and no other call runs a watch; only `watchProperty` changes the watches, and
`buildProp`'s `newProperty` follows its watch. -/
theorem watch_runs_at_every_insertion (host : Host) (device : BaseDevice) (call : Call) :
    let after := device.step host call
    ((∃ property, after.1.pAll = device.pAll ++ [property] ∧
        after.2.filter Event.isWatch =
          (device.watchPropertyMap property.name).toList.map (.watch property.name)) ∨
      (after.1.pAll.length ≤ device.pAll.length ∧ after.2.filter Event.isWatch = [])) ∧
    ((∀ name callback, call ≠ .watchProperty name callback) →
      after.1.watchPropertyMap = device.watchPropertyMap) ∧
    (∀ root isDynamic name, call = .buildProp root isDynamic →
      Event.notify (.newProperty name) ∈ after.2 →
        after.2.getLast? = some (.notify (.newProperty name))) :=
  ⟨step_insertion host device call, step_watchPropertyMap host device call,
    fun root isDynamic name called notified => by
      subst called
      exact buildProp_newProperty_last host device root isDynamic name notified⟩

/-- Watch, define, remove and define again: the watch runs at both definitions. -/
theorem watch_runs_again_at_redefinition :
    (BaseDevice.empty.run Host.cLocale [.watchProperty "FOO" 7, .buildProp (numberDefinition "D" "FOO") false,
      .removeProperty "FOO", .buildProp (numberDefinition "D" "FOO") false]).2.count (.watch "FOO" 7) = 2 := by
  set_option maxRecDepth 20000 in decide

/-!
## By-name accessors
-/

/-! `getPropertyState` and `getPropertyPermission` take the first entry of the name;
`getProperty` the first registered one. They agree when the first entry of the name is
registered. -/

theorem find?_matchesLookup_unknown (name : String) (pAll : List Property)
    (firstRegistered : (pAll.find? (·.isNameMatch name)).all (·.registered)) :
    pAll.find? (matchesLookup name .unknown) = pAll.find? (·.isNameMatch name) := by
  induction pAll with
  | nil => rfl
  | cons head tail ih =>
      by_cases named : head.isNameMatch name = true
      · have registered : head.registered = true := by simpa [named] using firstRegistered
        simp [List.find?_cons, named, matchesLookup, registered]
      · have skipped : matchesLookup name .unknown head = false := by simp [matchesLookup, named]
        simp only [List.find?_cons, named, skipped] at firstRegistered ⊢
        exact ih firstRegistered

/-- Where the first entry of the name is registered, or there is none,
`getPropertyState` and `getPropertyPermission` report what `getProperty` finds, and
`IPS_IDLE` and `IP_RO` when it finds nothing. -/
theorem by_name_accessors_agree (device : BaseDevice) (name : String)
    (firstRegistered : (device.pAll.find? (·.isNameMatch name)).all (·.registered)) :
    device.getPropertyState name = ((device.getProperty name).map (·.state)).getD .idle ∧
    device.getPropertyPermission name = ((device.getProperty name).map (·.permission)).getD .ro := by
  unfold getPropertyState getPropertyPermission getProperty
  rw [find?_matchesLookup_unknown name device.pAll firstRegistered]
  cases device.pAll.find? (·.isNameMatch name) <;> simp

theorem by_name_accessors_agree_after_definition :
    ((BaseDevice.empty.run Host.cLocale [.buildProp (numberDefinition "D" "FOO") false]).1.pAll.find?
        (·.isNameMatch "FOO")).all (·.registered) ∧
    ((BaseDevice.empty.run Host.cLocale [.buildProp (numberDefinition "D" "FOO") false]).1.getPropertyState "FOO" =
        (((BaseDevice.empty.run Host.cLocale [.buildProp (numberDefinition "D" "FOO") false]).1.getProperty
          "FOO").map (·.state)).getD .idle ∧
      (BaseDevice.empty.run Host.cLocale [.buildProp (numberDefinition "D" "FOO") false]).1.getPropertyPermission "FOO" =
        (((BaseDevice.empty.run Host.cLocale [.buildProp (numberDefinition "D" "FOO") false]).1.getProperty
          "FOO").map (·.permission)).getD .ro) :=
  ⟨by decide, by_name_accessors_agree _ "FOO" (by decide)⟩

/-- A ghost handed in with state `Ok`: `getPropertyState` reports its state,
`getProperty` does not find it. -/
theorem ghost_state_reported :
    (BaseDevice.empty.run Host.cLocale
        [.registerProperty (some { handedIn "FOO" false (.number []) with state := .ok })]).1.getPropertyState
        "FOO" ≠
      (((BaseDevice.empty.run Host.cLocale
        [.registerProperty (some { handedIn "FOO" false (.number []) with state := .ok })]).1.getProperty
        "FOO").map (·.state)).getD .idle := by
  decide

/-!
## Registration
-/

/-! `registerProperty` looks its name and kind up with `getProperty`, which skips
unregistered entries. A ghost is never found, so it is never marked registered, and the
property is appended beside it. A property handed in registered is found right after
its registration, so a second registration changes nothing. -/

theorem registerAt_found (device : BaseDevice) {property : Property}
    (registered : property.registered = true) :
    (device.registerAt property property.getType).1.getProperty property.name property.getType ≠ none := by
  rcases registerAt_cases device property property.getType with ⟨found, same⟩ | ⟨-, appended⟩
  · rw [same]
    exact found
  · rw [appended, addProperty_fst]
    intro absent
    have skipped := getProperty_eq_none_iff.mp absent property (by simp)
    simp [matchesLookup, registered, Property.isNameMatch] at skipped

/-- Either overload of `registerProperty`, handed a registered property twice, leaves the
registry as one call does, and the property's name and kind are then found. -/
theorem registering_registered_twice (host : Host) (device : BaseDevice) (property : Property)
    (registered : property.registered = true) {call : Call}
    (registers : call = .registerProperty (some property) ∨ call = .registerVector (some property)) :
    ((device.step host call).1.step host call).1.pAll = (device.step host call).1.pAll ∧
      (device.step host call).1.getProperty property.name property.getType ≠ none := by
  have once : ∀ current : BaseDevice,
      current.step host call = current.registerAt property property.getType := fun current => by
    rw [step_register host current (some property) registers]
    simp [registerProperty, Property.getType_ne_unknown]
  have found := registerAt_found device registered
  rw [once, once]
  refine ⟨?_, found⟩
  rcases registerAt_cases (device.registerAt property property.getType).1 property property.getType with
    ⟨-, same⟩ | ⟨absent, -⟩
  · rw [same]
  · exact absurd absent found

theorem registering_registered_twice_from_empty :
    (handedIn "A" true (.number [])).registered = true ∧
    ((BaseDevice.empty.step Host.cLocale (.registerProperty (some (handedIn "A" true (.number []))))).1.step
        Host.cLocale (.registerProperty (some (handedIn "A" true (.number []))))).1.pAll =
      (BaseDevice.empty.step Host.cLocale (.registerProperty (some (handedIn "A" true (.number []))))).1.pAll ∧
    (BaseDevice.empty.step Host.cLocale (.registerProperty (some (handedIn "A" true (.number []))))).1.getProperty
        (handedIn "A" true (.number [])).name (handedIn "A" true (.number [])).getType ≠ none :=
  ⟨rfl, registering_registered_twice Host.cLocale _ _ rfl (.inl rfl)⟩

/-- A ghost `A` and then a registered `A` of the same kind: the ghost stays a ghost and
a second `A` is appended. An unregistered `A` handed in twice is appended twice. -/
theorem ghost_not_revived :
    (BaseDevice.empty.run Host.cLocale [.registerProperty (some (handedIn "A" false (.number []))),
        .registerProperty (some (handedIn "A" true (.number [])))]).1.pAll.map
        (fun property => (property.name, property.getType, property.registered)) =
      [("A", .number, false), ("A", .number, true)] ∧
    (BaseDevice.empty.run Host.cLocale [.registerProperty (some (handedIn "A" false (.number []))),
        .registerProperty (some (handedIn "A" false (.number [])))]).1.pAll.length = 2 := by
  decide

end Indi
