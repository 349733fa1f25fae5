import Indi.Base.UpdateProperties

/-!
# The registry of a client

A client builds its devices from what the server sends it: definitions, updates,
deletions and messages. It never calls `registerProperty`, which drivers use to hand
their own vectors in. Over such runs `pAll` is a map by name: no two entries share a
name, and every entry is registered. So `getProperty` of a name finds the one entry of
that name, of the kind asked for, and the by-name accessors report what it finds.
-/

set_option autoImplicit false

namespace Indi

open BaseDevice

/-- The calls a client makes: every call but the two `registerProperty` overloads. -/
def Call.isClientCall : Call → Bool
  | .registerProperty _ | .registerVector _ => false
  | _ => true

/-- The registry as a client keeps it: no two entries share a name, and every entry is
registered. -/
structure ClientRegistry (pAll : List Property) : Prop where
  namesUnique : (pAll.map Property.name).Nodup
  registered : ∀ property ∈ pAll, property.registered = true

namespace ClientRegistry

variable {pAll : List Property} {head : Property}

theorem nil : ClientRegistry [] := ⟨List.nodup_nil, by simp⟩

theorem of_shapes {after : List Property} (same : after.map Property.shape = pAll.map Property.shape)
    (registry : ClientRegistry pAll) : ClientRegistry after := by
  have names : after.map Property.name = pAll.map Property.name := by
    simpa only [List.map_map] using congrArg (List.map Prod.fst) same
  refine ⟨names ▸ registry.namesUnique, fun property member => ?_⟩
  obtain ⟨other, held, shaped⟩ := List.mem_map.mp (same ▸ List.mem_map_of_mem Property.shape member)
  simp only [Property.shape, Prod.mk.injEq] at shaped
  rw [← shaped.2.2]
  exact registry.registered other held

theorem filter (registry : ClientRegistry pAll) (keep : Property → Bool) :
    ClientRegistry (pAll.filter keep) :=
  ⟨registry.namesUnique.sublist ((List.filter_sublist pAll).map _),
    fun property member => registry.registered property (List.mem_filter.mp member).1⟩

theorem append (registry : ClientRegistry pAll) {property : Property}
    (fresh : ∀ other ∈ pAll, other.name ≠ property.name) (registered : property.registered = true) :
    ClientRegistry (pAll ++ [property]) := by
  refine ⟨?_, fun other member => ?_⟩
  · rw [List.map_append, List.nodup_append]
    refine ⟨registry.namesUnique, List.nodup_singleton _, fun name old new => ?_⟩
    obtain ⟨other, held, rfl⟩ := List.mem_map.mp old
    exact fresh other held (List.mem_singleton.mp new)
  · rcases List.mem_append.mp member with old | new
    · exact registry.registered other old
    · rw [List.mem_singleton.mp new]
      exact registered

theorem find?_unknown (registry : ClientRegistry pAll) (name : String) :
    pAll.find? (matchesLookup name .unknown) = pAll.find? (·.isNameMatch name) := by
  refine find?_matchesLookup_unknown name pAll ?_
  cases found : pAll.find? (·.isNameMatch name) with
  | none => rfl
  | some property => simpa using registry.registered property (List.mem_of_find?_eq_some found)

theorem tail (registry : ClientRegistry (head :: pAll)) : ClientRegistry pAll :=
  ⟨(List.nodup_cons.mp registry.namesUnique).2,
    fun property member => registry.registered property (List.mem_cons_of_mem _ member)⟩

theorem find?_matchesLookup (registry : ClientRegistry pAll) (name : String) (type : PropertyType) :
    pAll.find? (matchesLookup name type) =
      (pAll.find? (·.isNameMatch name)).filter fun property => type == property.getType || type == .unknown := by
  induction pAll with
  | nil => rfl
  | cons head pAll ih =>
      have rest := ih registry.tail
      have registered := registry.registered head (List.mem_cons_self _ _)
      by_cases named : head.isNameMatch name = true
      · have unnamed : pAll.find? (·.isNameMatch name) = none := List.find?_eq_none.mpr fun other member same => by
          simp only [Property.isNameMatch, beq_iff_eq] at named same
          exact (List.nodup_cons.mp registry.namesUnique).1 (named ▸ same ▸ List.mem_map_of_mem _ member)
        rw [unnamed, Option.filter_none] at rest
        simp only [List.find?_cons, named, matchesLookup, registered, Bool.and_true, rest]
        split <;> simp_all [Option.filter]
      · simp only [List.find?_cons, named, matchesLookup, registered, Bool.and_true, Bool.and_false, rest]

theorem fresh_of_getProperty {device : BaseDevice} (registry : ClientRegistry device.pAll) {name : String}
    (absent : device.getProperty name = none) : ∀ other ∈ device.pAll, other.name ≠ name := by
  intro other member named
  have rejected := getProperty_eq_none_iff.mp absent other member
  simp [matchesLookup, Property.isNameMatch, named, registry.registered other member] at rejected

end ClientRegistry

theorem buildProp_clientRegistry (host : Host) (device : BaseDevice) (root : Element) (isDynamic : Bool)
    (fits : (valueText (root.getAttribute "name")).length < host.capacities.name)
    (registry : ClientRegistry device.pAll) :
    ClientRegistry (device.buildProp host root isDynamic).device.pAll := by
  rcases buildProp_cases host device root isDynamic with
    ⟨same, -⟩ | ⟨same, -⟩ | ⟨type, widgets, -, -, absent, -, -, ⟨-, bound, -⟩ | ⟨-, added, -⟩⟩
  · rwa [same]
  · rwa [same]
  · rwa [bound, bindName_pAll]
  · rw [added, addProperty_fst, bindName_pAll]
    refine registry.append ?_ rfl
    simp only [definedProperty, Node.fitted, fit_of_lt fits]
    exact registry.fresh_of_getProperty absent

theorem step_clientRegistry (host : Host) (device : BaseDevice) (call : Call)
    (client : call.isClientCall = true) (fits : call.NameFits host) (registry : ClientRegistry device.pAll) :
    ClientRegistry (device.step host call).1.pAll := by
  cases call with
  | buildProp root isDynamic => exact buildProp_clientRegistry host device root isDynamic fits registry
  | setValue root allocator => exact registry.of_shapes (setValue_frame host device root allocator).2.2.2.1
  | registerProperty vector | registerVector vector => cases client
  | removeProperty name =>
      simp only [step, removeProperty_device]
      exact registry.filter _
  | addMessage message => exact registry
  | doMessage message => exact (message_frame (doMessage_cases host device message)).1 ▸ registry
  | checkMessage root => exact (message_frame (checkMessage_cases host device root)).1 ▸ registry
  | _ => exact registry

/-- Over every run of client calls whose names fit, `pAll` holds each name once,
registered, so `getProperty` and the state and permission getters report that entry, or
`IPS_IDLE` and `IP_RO` when there is none. -/
theorem client_registry_keyed_by_name (host : Host) (calls : List Call)
    (client : ∀ call ∈ calls, call.isClientCall = true ∧ call.NameFits host) :
    ClientRegistry (BaseDevice.empty.run host calls).1.pAll ∧
    (∀ name type, (BaseDevice.empty.run host calls).1.getProperty name type =
      ((BaseDevice.empty.run host calls).1.pAll.find? (·.isNameMatch name)).filter
        fun property => type == property.getType || type == .unknown) ∧
    ∀ name, (BaseDevice.empty.run host calls).1.getPropertyState name =
        (((BaseDevice.empty.run host calls).1.getProperty name).map (·.state)).getD .idle ∧
      (BaseDevice.empty.run host calls).1.getPropertyPermission name =
        (((BaseDevice.empty.run host calls).1.getProperty name).map (·.permission)).getD .ro := by
  have registry := run_preserves host (fun call => call.isClientCall = true ∧ call.NameFits host)
    (fun device => ClientRegistry device.pAll)
    (fun device call allowed => step_clientRegistry host device call allowed.1 allowed.2)
    BaseDevice.empty calls client ClientRegistry.nil
  refine ⟨registry, registry.find?_matchesLookup, fun name => ?_⟩
  unfold getPropertyState getPropertyPermission getProperty
  rw [registry.find?_unknown name]
  cases (BaseDevice.empty.run host calls).1.pAll.find? (·.isNameMatch name) <;> simp

def redefinition : List Call :=
  [.buildProp (numberDefinition "D" "FOO") false, .removeProperty "FOO", .buildProp (numberDefinition "D" "FOO") false,
    .setValue numberUpdate []]

/-- `FOO` defined, deleted and defined again, then updated. -/
theorem client_redefinition_keyed_by_name :
    (∀ call ∈ redefinition, call.isClientCall = true ∧ call.NameFits Host.cLocale) ∧
    let device := (BaseDevice.empty.run Host.cLocale redefinition).1
    ClientRegistry device.pAll ∧
    (∀ name type, device.getProperty name type = (device.pAll.find? (·.isNameMatch name)).filter
        fun property => type == property.getType || type == .unknown) ∧
    ∀ name, device.getPropertyState name = ((device.getProperty name).map (·.state)).getD .idle ∧
      device.getPropertyPermission name = ((device.getProperty name).map (·.permission)).getD .ro :=
  ⟨by decide, client_registry_keyed_by_name Host.cLocale _ (by decide)⟩

end Indi
