import Indi.Base.RegistryProperties

/-!
# Concurrent calls

Threads call into one device. Each section under `m_Lock` (the scan of `getProperty`,
the `push_back` of `addProperty` or of `addMessage`) is one atomic step, and so is what
a call does between two of them. A schedule names the thread that moves next; a thread
that has returned, or that the schedule names past the end, does not move.
-/

set_option autoImplicit false

namespace Indi

open BaseDevice

/-!
## Threads
-/

/-! A thread is its call and where the call stands; `move` is one step of a call on the
shared state, and a schedule is the list of the threads that move, in order. -/

/-- Threads on one shared state. -/
structure Threads (Shared Call Phase : Type) where
  shared : Shared
  threads : List (Call × Phase)

namespace Threads

variable {Shared Call Phase : Type} (move : Shared → Call → Phase → Shared × Phase)

/-- The thread at `index` moves one step; past the end nothing moves. -/
def step (state : Threads Shared Call Phase) (index : Nat) : Threads Shared Call Phase :=
  match state.threads[index]? with
  | some (call, phase) =>
      ⟨(move state.shared call phase).1, state.threads.set index (call, (move state.shared call phase).2)⟩
  | none => state

def run (state : Threads Shared Call Phase) : List Nat → Threads Shared Call Phase
  | [] => state
  | index :: schedule => run (step move state index) schedule

def start (shared : Shared) (calls : List Call) (initial : Phase) : Threads Shared Call Phase :=
  ⟨shared, calls.map (·, initial)⟩

@[simp] theorem mem_start {shared : Shared} {calls : List Call} {initial : Phase}
    {thread : Call × Phase} :
    thread ∈ (start shared calls initial).threads ↔ thread.1 ∈ calls ∧ thread.2 = initial := by
  obtain ⟨call, phase⟩ := thread
  simp only [start, List.mem_map, Prod.mk.injEq]
  constructor
  · rintro ⟨_, held, rfl, rfl⟩
    exact ⟨held, rfl⟩
  · rintro ⟨held, rfl⟩
    exact ⟨call, held, rfl, rfl⟩

theorem step_cases (state : Threads Shared Call Phase) (index : Nat) :
    state.step move index = state ∨
    ∃ call phase, ∃ bound : index < state.threads.length,
      state.threads[index] = (call, phase) ∧
      state.step move index =
        ⟨(move state.shared call phase).1,
          state.threads.set index (call, (move state.shared call phase).2)⟩ := by
  unfold step
  split
  · rename_i call phase located
    obtain ⟨bound, located⟩ := List.getElem?_eq_some.mp located
    exact .inr ⟨call, phase, bound, located, rfl⟩
  · exact .inl rfl

theorem run_preserves (holds : Threads Shared Call Phase → Prop)
    (preserved : ∀ state, holds state → ∀ index, holds (state.step move index))
    (schedule : List Nat) {state : Threads Shared Call Phase} (start : holds state) :
    holds (state.run move schedule) := by
  induction schedule generalizing state with
  | nil => exact start
  | cons index schedule ih => exact ih (preserved state start index)

theorem mem_step {state : Threads Shared Call Phase} {index : Nat} {thread : Call × Phase}
    (member : thread ∈ (state.step move index).threads) :
    ∃ phase, (thread.1, phase) ∈ state.threads := by
  rcases step_cases move state index with same | ⟨call, phase, bound, located, moved⟩
  · rw [same] at member
    exact ⟨thread.2, member⟩
  · rw [moved] at member
    rcases List.mem_or_eq_of_mem_set member with old | rfl
    · exact ⟨thread.2, old⟩
    · exact ⟨phase, located ▸ List.getElem_mem bound⟩

theorem mem_run (schedule : List Nat) {state : Threads Shared Call Phase} {thread : Call × Phase}
    (member : thread ∈ (state.run move schedule).threads) :
    ∃ phase, (thread.1, phase) ∈ state.threads := by
  induction schedule generalizing state with
  | nil => exact ⟨thread.2, member⟩
  | cons index schedule ih =>
      obtain ⟨phase, earlier⟩ := ih member
      obtain ⟨first, started⟩ := mem_step move earlier
      exact ⟨first, started⟩

theorem length_run (schedule : List Nat) (state : Threads Shared Call Phase) :
    (state.run move schedule).threads.length = state.threads.length := by
  induction schedule generalizing state with
  | nil => rfl
  | cons index schedule ih =>
      rw [run, ih]
      rcases step_cases move state index with same | ⟨_, _, _, _, moved⟩
      · rw [same]
      · rw [moved, List.length_set]

end Threads

/-!
## Definitions
-/

/-! A `buildProp` or `registerProperty` call scans under the lock, lets it go, and then
appends under the lock again if its scan found nothing. Between its scan and its
append, other threads may scan and append. The part after the scan touches `pAll` only
at its append, so it is one step. -/

/-- A definition call of a thread; `registerProperty` with a valid handle. -/
inductive Definition where
  | buildProp (root : Element) (isDynamic : Bool)
  | registerProperty (property : Property)

/-- Where a definition call stands. -/
inductive DefinitionPhase where
  | start
  /-- After the scan: whether it found a registered match. -/
  | scanned (found : Bool)
  /-- Returned: what the scan found, the result, and whether the call appended. -/
  | finished (found : Bool) (code : Code) (appended : Bool)
  deriving DecidableEq

namespace DefinitionPhase

def found : DefinitionPhase → Bool
  | .start => false
  | .scanned found | .finished found _ _ => found

def returned : DefinitionPhase → Bool
  | .finished _ _ _ => true
  | _ => false

def appended : DefinitionPhase → Bool
  | .finished _ _ appended => appended
  | _ => false

end DefinitionPhase

namespace Definition

def name : Definition → String
  | .buildProp root _ => valueText (root.getAttribute "name")
  | .registerProperty property => property.name

/-- Whether the call gets to its scan: a `buildProp` passes `crackDN` and the tag check. -/
def checked : Definition → Bool
  | .buildProp root _ => crackDN root.toNode && (defTagType root.tag).isSome
  | .registerProperty _ => true

/-- Whether the call appends when its scan finds nothing: a `buildProp` keeps a widget. -/
def keepsWidget (host : Host) : Definition → Bool
  | .buildProp root _ =>
      match (defTagType root.tag).bind (defWidgets host root) with
      | some widgets => !widgets.names.isEmpty
      | none => false
  | .registerProperty _ => true

/-- One step of the call on the shared device. -/
def step (host : Host) (device : BaseDevice) : Definition → DefinitionPhase →
    BaseDevice × DefinitionPhase
  | definition@(.buildProp root _), .start =>
      if definition.checked then
        (device, .scanned (device.getProperty (valueText (root.getAttribute "name"))).isSome)
      else (device, .finished false .error false)
  | .registerProperty property, .start =>
      (device, .scanned (device.getProperty property.name property.getType).isSome)
  | .buildProp _ _, .scanned true => (device, .finished true .propertyDuplicated false)
  | .registerProperty property, .scanned true =>
      ({ device with
          pAll := updateFirst (matchesLookup property.name property.getType)
            (fun entry => { entry with registered := true }) device.pAll },
        .finished true .ok false)
  | definition@(.buildProp root isDynamic), .scanned false =>
      match defTagType root.tag with
      | some type =>
          let defined := device.defineProperty host root isDynamic type
          (defined.device, .finished false defined.result.code (definition.keepsWidget host))
      | none => (device, .finished false .error false)
  | .registerProperty property, .scanned false =>
      ((device.addProperty property).1, .finished false .ok true)
  | _, .finished found code appended => (device, .finished found code appended)

theorem step_buildProp_alone (host : Host) (device : BaseDevice) (root : Element)
    (isDynamic : Bool) :
    let definition := Definition.buildProp root isDynamic
    let scanned := definition.step host device .start
    let finished := definition.step host scanned.1 scanned.2
    finished.1 = (device.buildProp host root isDynamic).device ∧
      ∃ found appended,
        finished.2 = .finished found (device.buildProp host root isDynamic).result.code appended := by
  intro definition scanned finished
  by_cases passed : crackDN root.toNode = true
  · cases tagged : defTagType root.tag with
    | none => simp [finished, scanned, definition, step, checked, BaseDevice.buildProp, passed, tagged]
    | some type =>
        cases found : device.getProperty (valueText (root.getAttribute "name")) <;>
          simp [finished, scanned, definition, step, checked, BaseDevice.buildProp, passed, tagged, found]
  · simp [finished, scanned, definition, step, checked, BaseDevice.buildProp, passed]

theorem step_registerProperty_alone (host : Host) (device : BaseDevice) (property : Property) :
    let definition := Definition.registerProperty property
    let scanned := definition.step host device .start
    (definition.step host scanned.1 scanned.2).1 = (device.registerProperty (some property)).1 := by
  intro definition scanned
  simp only [BaseDevice.registerProperty, Property.getType_ne_unknown, if_false, registerAt]
  cases found : device.getProperty property.name property.getType <;>
    simp [scanned, definition, step, found]

theorem step_pAll (host : Host) (device : BaseDevice) (definition : Definition)
    (phase : DefinitionPhase) :
    let moved := definition.step host device phase
    (moved.1.pAll = device.pAll ∧ moved.2.appended = phase.appended) ∨
    (∃ property, moved.1.pAll = device.pAll ++ [property] ∧ moved.2.appended = true ∧
      phase.appended = false) := by
  intro moved
  cases definition with
  | buildProp root isDynamic =>
      cases phase with
      | start => simp only [moved, step]; split <;> exact .inl ⟨rfl, rfl⟩
      | scanned found =>
          cases found
          · simp only [moved, step]
            cases tagged : defTagType root.tag with
            | none => exact .inl ⟨rfl, rfl⟩
            | some type =>
                obtain ⟨widgets, built⟩ := Option.isSome_iff_exists.mp
                  (defWidgets_isSome host root (defTagType_ne_unknown tagged))
                simp only [defineProperty_pAll host device root isDynamic built, keepsWidget, tagged,
                  Option.some_bind, built]
                by_cases empty : widgets.names.isEmpty <;> simp [empty, DefinitionPhase.appended]
          · exact .inl ⟨rfl, rfl⟩
      | finished => exact .inl ⟨rfl, rfl⟩
  | registerProperty property =>
      cases phase with
      | start => exact .inl ⟨rfl, rfl⟩
      | scanned found =>
          cases found
          · exact .inr ⟨property, rfl, rfl, rfl⟩
          · exact .inl ⟨updateFirst_markRegistered _ _ _, rfl⟩
      | finished => exact .inl ⟨rfl, rfl⟩

theorem step_found (host : Host) (device : BaseDevice) (definition : Definition)
    (phase : DefinitionPhase) (found : (definition.step host device phase).2.found = true) :
    phase.found = true ∨
      ∃ property ∈ device.pAll, property.registered ∧ property.name = definition.name := by
  have scanned : ∀ {type}, (device.getProperty definition.name type).isSome = true →
      ∃ property ∈ device.pAll, property.registered ∧ property.name = definition.name := by
    intro type located
    obtain ⟨property, lookup⟩ := Option.isSome_iff_exists.mp located
    obtain ⟨member, selected⟩ := getProperty_mem lookup
    simp only [matchesLookup, Bool.and_eq_true, Property.isNameMatch_iff] at selected
    exact ⟨property, member, selected.1.2, selected.2⟩
  cases phase with
  | start =>
      cases definition with
      | buildProp root isDynamic =>
          simp only [step] at found
          split at found
          · exact .inr (scanned found)
          · cases found
      | registerProperty property => exact .inr (scanned found)
  | scanned wasFound =>
      cases wasFound
      · cases definition with
        | buildProp root isDynamic =>
            simp only [step] at found
            split at found <;> simp [DefinitionPhase.found] at found
        | registerProperty property => simp [step, DefinitionPhase.found] at found
      · exact .inl rfl
  | finished => cases definition <;> exact .inl found

/-- What a thread's record says about its call: it scans only past the checks, and it
has appended exactly when it returned after a scan that found nothing, with a widget. -/
def Consistent (host : Host) (definition : Definition) : DefinitionPhase → Prop
  | .start => True
  | .scanned _ => definition.checked = true
  | .finished found _ appended =>
      appended = (!found && definition.checked && definition.keepsWidget host)

theorem step_consistent (host : Host) (device : BaseDevice) (definition : Definition)
    {phase : DefinitionPhase} (consistent : definition.Consistent host phase) :
    definition.Consistent host (definition.step host device phase).2 := by
  cases definition with
  | buildProp root isDynamic =>
      cases phase with
      | start =>
          simp only [step]
          split <;> simp_all [Consistent]
      | scanned found =>
          cases found
          · simp only [step]
            split <;> simp_all [Consistent, checked, keepsWidget]
          · simp_all [Consistent, step]
      | finished => exact consistent
  | registerProperty property =>
      cases phase with
      | start => rfl
      | scanned found => cases found <;> rfl
      | finished => exact consistent

end Definition

/-!
## Races of definitions
-/

namespace Threads

variable (host : Host)

def appendedCount (race : Threads BaseDevice Definition DefinitionPhase) : Nat :=
  race.threads.countP (·.2.appended)

theorem appendedCount_set (race : Threads BaseDevice Definition DefinitionPhase) {index : Nat}
    (bound : index < race.threads.length) {definition : Definition} {phase : DefinitionPhase}
    (located : race.threads[index] = (definition, phase)) (device : BaseDevice)
    (moved : DefinitionPhase) :
    appendedCount ⟨device, race.threads.set index (definition, moved)⟩ +
        (if phase.appended then 1 else 0) =
      race.appendedCount + (if moved.appended then 1 else 0) := by
  have counted := List.boole_getElem_le_countP
    (fun thread : Definition × DefinitionPhase => thread.2.appended) race.threads index bound
  simp only [appendedCount, List.countP_set _ _ _ _ bound, located] at counted ⊢
  omega

/-- The growth of `pAll` is the count of appends, and every record is consistent. -/
def Counted (base : Nat) (race : Threads BaseDevice Definition DefinitionPhase) : Prop :=
  race.shared.pAll.length = base + race.appendedCount ∧
    ∀ thread ∈ race.threads, thread.1.Consistent host thread.2

theorem step_counted {base : Nat} {race : Threads BaseDevice Definition DefinitionPhase}
    (counted : race.Counted host base) (index : Nat) :
    (race.step (Definition.step host) index).Counted host base := by
  rcases step_cases (Definition.step host) race index with
    same | ⟨definition, phase, bound, located, moved⟩
  · rwa [same]
  · obtain ⟨length, consistent⟩ := counted
    have count := appendedCount_set race bound located
      (definition.step host race.shared phase).1 (definition.step host race.shared phase).2
    rw [moved]
    refine ⟨?_, fun thread member => ?_⟩
    · rcases Definition.step_pAll host race.shared definition phase with
        ⟨same, kept⟩ | ⟨property, grown, now, before⟩
      · rw [kept] at count
        simp only [same, length]
        omega
      · rw [now, before] at count
        simp only [grown, List.length_append, List.length_singleton, length]
        simp only [if_true, Bool.false_eq_true, if_false] at count
        omega
    · rcases List.mem_or_eq_of_mem_set member with old | rfl
      · exact consistent thread old
      · exact Definition.step_consistent host race.shared definition
          (consistent _ (located ▸ List.getElem_mem bound))

theorem start_counted (device : BaseDevice) (definitions : List Definition) :
    (start device definitions .start : Threads _ _ _).Counted host device.pAll.length := by
  refine ⟨?_, ?_⟩
  · simp [start, appendedCount, List.countP_map, Function.comp_def, DefinitionPhase.appended]
  · simp [start, Definition.Consistent]

/-- Once the device holds a registered entry of the name, or a thread's scan has found
one, some thread has appended. -/
def Seen (name : String) (race : Threads BaseDevice Definition DefinitionPhase) : Prop :=
  ((∃ property ∈ race.shared.pAll, property.registered ∧ property.name = name) ∨
    ∃ thread ∈ race.threads, thread.2.found) → 0 < race.appendedCount

def Named (name : String) (race : Threads BaseDevice Definition DefinitionPhase) : Prop :=
  ∀ thread ∈ race.threads, thread.1.name = name

theorem step_seen {name : String} {race : Threads BaseDevice Definition DefinitionPhase}
    (named : race.Named name ∧ race.Seen name) (index : Nat) :
    (race.step (Definition.step host) index).Named name ∧
      (race.step (Definition.step host) index).Seen name := by
  obtain ⟨named, seen⟩ := named
  refine ⟨fun thread member => ?_, ?_⟩
  · obtain ⟨phase, earlier⟩ := mem_step _ member
    exact named (thread.1, phase) earlier
  rcases step_cases (Definition.step host) race index with
    same | ⟨definition, phase, bound, located, moved⟩
  · rwa [same]
  · have member : (definition, phase) ∈ race.threads := located ▸ List.getElem_mem bound
    have count := appendedCount_set race bound located
      (definition.step host race.shared phase).1 (definition.step host race.shared phase).2
    rw [moved]
    intro found
    rcases Definition.step_pAll host race.shared definition phase with
      ⟨same, kept⟩ | ⟨property, -, now, before⟩
    · rw [kept] at count
      refine Nat.lt_of_lt_of_le (seen ?_) (by omega)
      rcases found with ⟨property, held, registered⟩ | ⟨thread, moving, scanned⟩
      · exact .inl ⟨property, same ▸ held, registered⟩
      · rcases List.mem_or_eq_of_mem_set moving with old | rfl
        · exact .inr ⟨thread, old, scanned⟩
        · rcases Definition.step_found host race.shared definition phase scanned with
            earlier | ⟨property, held, registered, called⟩
          · exact .inr ⟨_, member, earlier⟩
          · exact .inl ⟨property, held, registered, called.trans (named _ member)⟩
    · rw [now, before] at count
      simp only [if_true, Bool.false_eq_true, if_false] at count
      omega

theorem start_seen {name : String} (device : BaseDevice) {definitions : List Definition}
    (defines : ∀ definition ∈ definitions, definition.name = name)
    (absent : ∀ property ∈ device.pAll, property.registered = true → property.name ≠ name) :
    (start device definitions .start : Threads _ _ _).Named name ∧
      (start device definitions .start : Threads _ _ _).Seen name := by
  refine ⟨fun thread member => defines _ (mem_start.mp member).1, ?_⟩
  rintro (⟨property, held, registered, called⟩ | ⟨thread, member, scanned⟩)
  · exact absurd called (absent property held registered)
  · rw [(mem_start.mp member).2] at scanned
    cases scanned

end Threads

/-!
## The race law
-/

/-- Over every schedule, `pAll` grows by one entry per thread that appended; a returned
thread appended exactly when it passed the checks, found no match and kept a widget; and
threads that all define one fresh name leave an append. -/
theorem definitions_race (host : Host) (device : BaseDevice) (definitions : List Definition)
    (schedule : List Nat) :
    let race := (Threads.start device definitions .start).run (Definition.step host) schedule
    race.shared.pAll.length = device.pAll.length + race.appendedCount ∧
    (∀ definition found code appended,
      (definition, DefinitionPhase.finished found code appended) ∈ race.threads →
        appended = (!found && definition.checked && definition.keepsWidget host)) ∧
    (∀ name, (∀ definition ∈ definitions,
        definition.name = name ∧ definition.checked = true ∧ definition.keepsWidget host = true) →
      (∀ property ∈ device.pAll, property.registered = true → property.name ≠ name) →
      definitions ≠ [] → (∀ thread ∈ race.threads, thread.2.returned = true) →
      0 < race.appendedCount) := by
  intro race
  obtain ⟨length, consistent⟩ := Threads.run_preserves _ (Threads.Counted host _)
    (fun _ => Threads.step_counted host) schedule
    (Threads.start_counted host device definitions)
  refine ⟨length, fun definition found code appended member => consistent _ member, ?_⟩
  intro name defines absent nonempty returned
  have original : ∀ thread ∈ race.threads, thread.1 ∈ definitions := fun thread member => by
    obtain ⟨_, started⟩ := Threads.mem_run _ schedule member
    exact (Threads.mem_start.mp started).1
  have seen : race.Seen name :=
    (Threads.run_preserves _ (fun race => race.Named name ∧ race.Seen name)
      (fun _ => Threads.step_seen host) schedule
      (Threads.start_seen device (fun definition held => (defines definition held).1) absent)).2
  have some : 0 < race.threads.length := by
    rw [Threads.length_run, Threads.start, List.length_map]
    exact List.length_pos.mpr nonempty
  have member : race.threads[0] ∈ race.threads := List.getElem_mem some
  have finished := returned _ member
  have defined := defines _ (original _ member)
  have counted := consistent _ member
  rcases picked : race.threads[0].2 with _ | _ | ⟨found, code, appended⟩ <;>
    rw [picked] at finished counted
  · cases finished
  · cases finished
  · cases found
    · simp only [Definition.Consistent, defined.2.1, defined.2.2, Bool.not_false,
        Bool.and_self] at counted
      exact List.countP_pos_iff.mpr ⟨_, member, by rw [picked, counted]; rfl⟩
    · exact seen (.inr ⟨_, member, by rw [picked]; rfl⟩)

theorem definitions_race_in_turn :
    0 < ((Threads.start BaseDevice.empty [.buildProp (numberDefinition "D" "FOO") false,
        .buildProp (numberDefinition "D" "FOO") false] .start).run (Definition.step Host.cLocale)
        [0, 0, 1, 1]).appendedCount :=
  (definitions_race Host.cLocale BaseDevice.empty [.buildProp (numberDefinition "D" "FOO") false,
      .buildProp (numberDefinition "D" "FOO") false] [0, 0, 1, 1]).2.2 "FOO"
    (by decide) (by decide) (List.cons_ne_nil _ _) (by set_option maxRecDepth 20000 in decide)

/-- Two definitions of `FOO` whose scans both run before either appends both return 0
and both append. -/
theorem racing_definitions_both_append :
    ((Threads.start BaseDevice.empty [.buildProp (numberDefinition "D" "FOO") false,
        .buildProp (numberDefinition "D" "FOO") false] .start).run (Definition.step Host.cLocale)
        [0, 1, 0, 1]).shared.pAll.map
        Property.name = ["FOO", "FOO"] ∧
    ((Threads.start BaseDevice.empty [.buildProp (numberDefinition "D" "FOO") false,
        .buildProp (numberDefinition "D" "FOO") false] .start).run (Definition.step Host.cLocale)
        [0, 1, 0, 1]).threads.map
        Prod.snd = [.finished false .ok true, .finished false .ok true] := by
  set_option maxRecDepth 20000 in decide

/-!
## Messages
-/

/-! `addMessage` appends under the lock, lets it go, and only then reads the size of the
log for the index it notifies. Between the two, other threads may append. -/

/-- Where an `addMessage` call stands. The position its message was stored at is kept
for the statements; the code does not keep it. -/
inductive MessagePhase where
  | start
  | pushed (position : Nat)
  /-- Returned, having notified `newMessage` with `index`. -/
  | notified (position index : Nat)
  deriving DecidableEq

/-- One step of an `addMessage` call on the shared device. -/
def addMessageStep (device : BaseDevice) (message : String) :
    MessagePhase → BaseDevice × MessagePhase
  | .start =>
      ({ device with messageLog := device.messageLog ++ [message] }, .pushed device.messageLog.length)
  | .pushed position => (device, .notified position (device.messageLog.length - 1))
  | .notified position index => (device, .notified position index)

theorem addMessageStep_alone (device : BaseDevice) (message : String) :
    let pushed := addMessageStep device message .start
    let notified := addMessageStep pushed.1 message pushed.2
    notified.1 = (device.addMessage message).device ∧
      notified.2 = .notified device.messageLog.length device.messageLog.length := by
  simp [addMessageStep, addMessage_device]

/-- Every message stays where it was stored, and every notified index is inside the
log. -/
def MessagesValid (messages : Threads BaseDevice String MessagePhase) : Prop :=
  ∀ thread ∈ messages.threads, match thread.2 with
    | .start => True
    | .pushed position => messages.shared.messageLog[position]? = some thread.1
    | .notified position index =>
        messages.shared.messageLog[position]? = some thread.1 ∧ position ≤ index ∧
          index < messages.shared.messageLog.length

theorem getElem?_append_of_getElem? {log : List String} {position : Nat} {message : String}
    (stored : log[position]? = some message) (added : String) :
    (log ++ [added])[position]? = some message := by
  rw [List.getElem?_append_left (List.getElem?_eq_some.mp stored).1]
  exact stored

theorem addMessageStep_valid (messages : Threads BaseDevice String MessagePhase)
    (valid : MessagesValid messages) (index : Nat) :
    MessagesValid (messages.step addMessageStep index) := by
  rcases Threads.step_cases addMessageStep messages index with
    same | ⟨message, phase, bound, located, moved⟩
  · rwa [same]
  rw [moved]
  have own := valid _ (located ▸ List.getElem_mem bound)
  intro thread member
  rcases List.mem_or_eq_of_mem_set member with old | rfl
  · have kept := valid thread old
    cases phase with
    | start =>
        rcases thread with ⟨text, _ | position | ⟨position, notice⟩⟩
        · trivial
        · exact getElem?_append_of_getElem? kept message
        · refine ⟨getElem?_append_of_getElem? kept.1 message, kept.2.1, ?_⟩
          simp only [addMessageStep, List.length_append, List.length_singleton]
          omega
    | pushed | notified => exact kept
  · cases phase with
    | start => simp [addMessageStep]
    | pushed position =>
        have inside := (List.getElem?_eq_some.mp own).1
        exact ⟨own, by omega, by simp only [addMessageStep]; omega⟩
    | notified => exact own

/-- In every interleaving of `addMessage` calls started together, each message stays at
the position it was stored at, and each notified index lies inside the log, at or past
the call's own position; the log only grows, so it stays inside. -/
theorem notified_index_valid (device : BaseDevice) (messages : List String) (schedule : List Nat) :
    let run := (Threads.start device messages .start).run addMessageStep schedule
    ∀ message position index, (message, MessagePhase.notified position index) ∈ run.threads →
      run.shared.messageLog[position]? = some message ∧ position ≤ index ∧
        index < run.shared.messageLog.length := fun message position index member =>
  Threads.run_preserves addMessageStep MessagesValid addMessageStep_valid schedule
    (fun thread started => by
      rw [(Threads.mem_start.mp started).2]
      trivial)
    (message, .notified position index) member

/-- Two `addMessage` calls whose pushes both come before either reads the size: the
first stored its message at 0 and notifies 1. -/
theorem addMessage_notifies_later_index :
    ((Threads.start BaseDevice.empty ["first", "second"] .start).run addMessageStep
      [0, 1, 0, 1]).threads.map Prod.snd = [.notified 0 1, .notified 1 1] := by
  decide

end Indi
