import Indi.Base.Property

/-!
# Imager batches

The batch logic of the imager agent of `scopesim_helper.h`. A batch runs the groups
`1` to `maxGroup` in turn, and in each group the images `1` to the group's count. An
image completion, a BLOB update while the batch runs or a `CCD_FILE_PATH` update of the
controlled CCD, moves to the next image or to the next group. `ISNewNumber` sets
`maxGroup` for a vector named like the widget `GROUP_COUNT`, at any time; the vector is
defined as `GROUPS`, so a client's update of it leaves `maxGroup` at `1`. `getGroup`
returns a group for an index in `0..maxGroup`, and every caller dereferences what it
returns.
-/

set_option autoImplicit false

namespace Indi

/-!
## The batch state
-/

/-! Only the fields the batch reads or writes. The commands sent to the CCD and the
filter wheel, the files and the log lines are not modelled. -/

/-- The settings of a `Group` that the batch reads: its image count and filter slot. -/
structure Group where
  count : Int
  filterSlot : Int
  deriving DecidableEq, Repr

/-- The fields of `Imager` the batch reads or writes: `progress` is `ProgressNP`'s state,
the connections are `StatusLP`'s lights, `filterSlot` is `FilterSlotN[0].value`. -/
structure Imager where
  groups : List Group
  group : Int
  image : Int
  maxGroup : Int
  maxImage : Int
  progress : IPState
  ccdConnected : Bool
  filterConnected : Bool
  filterSlot : Int
  deriving DecidableEq, Repr

/-- A call of `getGroup`: the index passed and `maxGroup` at the call. -/
structure Lookup where
  index : Int
  maxGroup : Int
  deriving DecidableEq, Repr

/-- Whether a call asked for a group in use, `0` to `maxGroup - 1`. -/
def Lookup.inRange (lookup : Lookup) : Bool :=
  0 ≤ lookup.index && lookup.index < lookup.maxGroup

/-- What a handler did: its calls of `getGroup` in order, and the state it left, or
`none` once it dereferenced a null group. -/
structure Handled where
  lookups : List Lookup
  after : Option Imager
  deriving DecidableEq, Repr

namespace Handled

def done (imager : Imager) : Handled := ⟨[], some imager⟩

/-- `next` on the state `first` left, if it left one. -/
def andThen (first : Handled) (next : Imager → Handled) : Handled :=
  match first.after with
  | none => first
  | some imager => ⟨first.lookups ++ (next imager).lookups, (next imager).after⟩

end Handled

/-- An event the batch sees. -/
inductive ImagerEvent where
  /-- A new value of `BATCH`: each switch named, with whether it is on. -/
  | batch (switches : List (String × Bool))
  /-- An update of a BLOB property with this many widgets. -/
  | blob (widgets : Nat)
  /-- An update of the controlled CCD's `CCD_FILE_PATH`. -/
  | filePath
  /-- A new value of the Number vector `name`; `groupCount` is `(int)` of the value
  `GROUP_COUNT` has after the update. -/
  | number (name : String) (groupCount : Int)
  deriving DecidableEq, Repr

/-- The count an event sets: an update that reaches the group-count branch. -/
def ImagerEvent.newGroupCount : ImagerEvent → Option Int
  | .number name value => if name = "GROUP_COUNT" then some value else none
  | _ => none

namespace Imager

/-- The imager after `updateProperties` on connection, `maxGroup` being `1` as
`initProperties` leaves it. -/
def connected (groups : List Group) (maxImage : Int) (ccd filter : Bool) (filterSlot : Int) :
    Imager :=
  ⟨groups, 0, 0, 1, maxImage, .idle, ccd, filter, filterSlot⟩

/-- `Imager::isRunning`. -/
def isRunning (imager : Imager) : Bool :=
  imager.progress == .busy

/-- `Imager::getGroup`. An index past the vector reads nothing. -/
def getGroup (imager : Imager) (index : Int) : Option Group :=
  if -1 < index ∧ index ≤ imager.maxGroup then imager.groups[index.toNat]? else none

/-- A call of `getGroup` whose result is dereferenced: `use` runs on the group; a null
group ends the handler. -/
def withGroup (imager : Imager) (index : Int) (use : Group → Handled) : Handled :=
  match imager.getGroup index with
  | none => ⟨[⟨index, imager.maxGroup⟩], none⟩
  | some found => ⟨⟨index, imager.maxGroup⟩ :: (use found).lookups, (use found).after⟩

/-- `currentGroup()`, dereferenced. -/
def withCurrentGroup (imager : Imager) (use : Group → Handled) : Handled :=
  imager.withGroup (imager.group - 1) use

/-- `nextGroup()`, dereferenced. -/
def withNextGroup (imager : Imager) (use : Group → Handled) : Handled :=
  imager.withGroup imager.group use

/-- The guard of `initiateNextFilter` and `initiateNextCapture`. -/
def inBatch (imager : Imager) : Bool :=
  0 < imager.group && 0 < imager.image && imager.group ≤ imager.maxGroup &&
    imager.image ≤ imager.maxImage

/-- `Imager::initiateNextCapture`: with the CCD connected, read the current group's
binning twice and its exposure, and start the capture. -/
def initiateNextCapture (imager : Imager) : Handled :=
  if imager.isRunning && imager.inBatch then
    if !imager.ccdConnected then .done { imager with progress := .alert }
    else
      imager.withCurrentGroup fun _ =>
        imager.withCurrentGroup fun _ =>
          imager.withCurrentGroup fun _ => .done imager
  else .done imager

/-- `Imager::initiateNextFilter`: move the filter wheel to the current group's slot, or
go on to the capture. -/
def initiateNextFilter (imager : Imager) : Handled :=
  if imager.isRunning && imager.inBatch then
    imager.withCurrentGroup fun current =>
      if !imager.filterConnected then
        if current.filterSlot ≠ 0 then .done { imager with progress := .alert }
        else imager.initiateNextCapture
      else if current.filterSlot ≠ 0 && imager.filterSlot ≠ current.filterSlot then
        .done { imager with filterSlot := current.filterSlot }
      else imager.initiateNextCapture
  else .done imager

/-- `Imager::startBatch`. -/
def startBatch (imager : Imager) : Handled :=
  let numbered := { imager with group := 1, image := 1 }
  numbered.withCurrentGroup fun current =>
    { numbered with maxImage := current.count, progress := .busy }.initiateNextFilter

/-- `Imager::abortBatch`. -/
def abortBatch (imager : Imager) : Imager :=
  { imager with progress := .alert }

/-- `Imager::batchDone`. -/
def batchDone (imager : Imager) : Imager :=
  { imager with progress := .ok }

/-- An image completion, as both branches of `updateProperty` write it: the next image
of the group, the first image of the next group, or the end of the batch. -/
def completeImage (imager : Imager) : Handled :=
  if imager.image = imager.maxImage then
    if imager.group = imager.maxGroup then .done imager.batchDone
    else
      imager.withNextGroup fun next =>
        { imager with maxImage := next.count, group := imager.group + 1, image := 1 }.initiateNextFilter
  else { imager with image := imager.image + 1 }.initiateNextFilter

/-- The `BATCH` branch of `ISNewSwitch`: a switch `START` that is on starts a batch
unless one runs, and a switch `ABORT` that is on aborts a running one. -/
def batchSwitch (imager : Imager) : List (String × Bool) → Handled
  | [] => .done imager
  | (name, isOn) :: rest =>
      let started :=
        if name = "START" ∧ isOn = true ∧ imager.isRunning = false then imager.startBatch
        else .done imager
      started.andThen fun imager =>
        (if name = "ABORT" ∧ isOn = true ∧ imager.isRunning = true then imager.abortBatch
          else imager).batchSwitch rest

/-- The BLOB branch of `updateProperty`: an image completion for each widget of the
property, each while the batch runs. -/
def blobUpdate (imager : Imager) : Nat → Handled
  | 0 => .done imager
  | count + 1 =>
      (if imager.isRunning then imager.completeImage else .done imager).andThen
        (·.blobUpdate count)

/-- The `GROUP_COUNT` branch of `ISNewNumber`: the new count, capped at
`MAX_GROUP_COUNT`. -/
def setGroupCount (imager : Imager) (value : Int) : Imager :=
  { imager with maxGroup := if value > imager.groups.length then imager.groups.length else value }

/-- The name `initProperties` gives the group-count vector. -/
def groupsVector : String := "GROUPS"

/-- `Imager::ISNewNumber` for this device, as the batch sees it: the group-count branch
tests `GroupCountNP[GROUP_COUNT].isNameMatch(name)`, the widget's name; `DOWNLOAD` and
the `GROUP_` vectors change no batch field. -/
def newNumber (imager : Imager) (name : String) (groupCount : Int) : Imager :=
  if name = "GROUP_COUNT" then imager.setGroupCount groupCount else imager

def handle (imager : Imager) : ImagerEvent → Handled
  | .batch switches => imager.batchSwitch switches
  | .blob widgets => imager.blobUpdate widgets
  | .filePath => imager.completeImage
  | .number name value => .done (imager.newNumber name value)

/-- The events in order, until a handler dereferences a null group. -/
def run (imager : Imager) : List ImagerEvent → Handled
  | [] => .done imager
  | event :: events => (imager.handle event).andThen (·.run events)

end Imager

/-!
## Safety
-/

/-! Every `getGroup` call should ask for a group in use, so that none returns null, and a
running batch should keep its group and image in range. -/

/-- What the batch is written for, of a run: every `getGroup` call asked for a group in
use, no null group was dereferenced, and a batch still running is at a group in
`1..maxGroup` and an image of at least `1`. -/
structure Handled.Safe (handled : Handled) : Prop where
  inRange : ∀ lookup ∈ handled.lookups, lookup.inRange = true
  survives : ∃ imager, handled.after = some imager ∧
    (imager.isRunning = true → 1 ≤ imager.group ∧ imager.group ≤ imager.maxGroup ∧ 1 ≤ imager.image)

namespace Imager

def threeSingleImageGroups : Imager :=
  connected (List.replicate 3 ⟨1, 0⟩) 0 true false 0

/-- The batch invariant: `maxGroup` is one of `1..MAX_GROUP_COUNT`, the group is one of
`0..maxGroup`, and a running batch is at a group and an image of at least `1`. -/
structure Valid (imager : Imager) : Prop where
  atLeastOne : 1 ≤ imager.maxGroup
  withinGroups : imager.maxGroup ≤ imager.groups.length
  groupNonneg : 0 ≤ imager.group
  groupWithin : imager.group ≤ imager.maxGroup
  running : imager.isRunning = true → 1 ≤ imager.group ∧ 1 ≤ imager.image

end Imager

/-- A handler kept the invariant: it asked only for groups in use and left a valid
imager with the same groups and `maxGroup`. -/
structure Handled.Keeps (handled : Handled) (groups : List Group) (maxGroup : Int) : Prop where
  inRange : ∀ lookup ∈ handled.lookups, lookup.inRange = true
  after : ∃ imager, handled.after = some imager ∧ imager.Valid ∧ imager.groups = groups ∧
    imager.maxGroup = maxGroup

namespace Imager

theorem keeps_done {imager : Imager} (valid : imager.Valid) :
    (Handled.done imager).Keeps imager.groups imager.maxGroup :=
  ⟨by simp [Handled.done], imager, rfl, valid, rfl, rfl⟩

theorem keeps_andThen {groups : List Group} {maxGroup : Int} {first : Handled}
    (kept : first.Keeps groups maxGroup) {next : Imager → Handled}
    (nextKept : ∀ imager : Imager, imager.Valid → imager.groups = groups → imager.maxGroup = maxGroup →
      (next imager).Keeps groups maxGroup) :
    (first.andThen next).Keeps groups maxGroup := by
  obtain ⟨imager, left, valid, sameGroups, sameMax⟩ := kept.after
  have rest := nextKept imager valid sameGroups sameMax
  refine ⟨?_, ?_⟩
  · simp only [Handled.andThen, left, List.mem_append]
    rintro lookup (early | late)
    exacts [kept.inRange lookup early, rest.inRange lookup late]
  · simpa only [Handled.andThen, left] using rest.after

theorem keeps_withGroup {imager : Imager} {index : Int} (nonneg : 0 ≤ index)
    (below : index < imager.maxGroup) (within : imager.maxGroup ≤ imager.groups.length)
    {groups : List Group} {maxGroup : Int} {use : Group → Handled}
    (used : ∀ found, (use found).Keeps groups maxGroup) :
    (imager.withGroup index use).Keeps groups maxGroup := by
  have found : imager.getGroup index = some imager.groups[index.toNat] := by
    have inside : index.toNat < imager.groups.length := by omega
    simp [getGroup, inside, show -1 < index by omega, Int.le_of_lt below]
  simp only [withGroup, found]
  refine ⟨?_, (used _).after⟩
  rintro lookup (⟨⟩ | ⟨_, later⟩)
  · simp [Lookup.inRange, nonneg, below]
  · exact (used _).inRange lookup later

theorem keeps_withCurrentGroup {imager : Imager} (valid : imager.Valid)
    (guarded : imager.inBatch = true) {groups : List Group} {maxGroup : Int}
    {use : Group → Handled} (used : ∀ found, (use found).Keeps groups maxGroup) :
    (imager.withCurrentGroup use).Keeps groups maxGroup := by
  simp only [inBatch, Bool.and_eq_true, decide_eq_true_eq] at guarded
  exact keeps_withGroup (by omega) (by omega) valid.withinGroups used

theorem Valid.halt {imager : Imager} (valid : imager.Valid) (progress : IPState)
    (halted : progress ≠ .busy) : ({ imager with progress := progress } : Imager).Valid :=
  ⟨valid.atLeastOne, valid.withinGroups, valid.groupNonneg, valid.groupWithin,
    fun running => absurd (beq_iff_eq.mp running) halted⟩

theorem keeps_initiateNextCapture {imager : Imager} (valid : imager.Valid) :
    imager.initiateNextCapture.Keeps imager.groups imager.maxGroup := by
  unfold initiateNextCapture
  split
  · rename_i guarded
    simp only [Bool.and_eq_true] at guarded
    split
    · exact keeps_done (valid.halt .alert (by decide))
    · exact keeps_withCurrentGroup valid guarded.2 fun _ =>
        keeps_withCurrentGroup valid guarded.2 fun _ =>
          keeps_withCurrentGroup valid guarded.2 fun _ => keeps_done valid
  · exact keeps_done valid

theorem keeps_initiateNextFilter {imager : Imager} (valid : imager.Valid) :
    imager.initiateNextFilter.Keeps imager.groups imager.maxGroup := by
  unfold initiateNextFilter
  split
  · rename_i guarded
    simp only [Bool.and_eq_true] at guarded
    refine keeps_withCurrentGroup valid guarded.2 fun current => ?_
    split
    · split
      · exact keeps_done (valid.halt .alert (by decide))
      · exact keeps_initiateNextCapture valid
    · split
      · exact @keeps_done { imager with filterSlot := current.filterSlot }
          ⟨valid.atLeastOne, valid.withinGroups, valid.groupNonneg, valid.groupWithin, valid.running⟩
      · exact keeps_initiateNextCapture valid
  · exact keeps_done valid

theorem keeps_startBatch {imager : Imager} (valid : imager.Valid) :
    imager.startBatch.Keeps imager.groups imager.maxGroup := by
  have atLeastOne := valid.atLeastOne
  refine keeps_withGroup (by dsimp only; omega) (by dsimp only; omega) valid.withinGroups fun _ => ?_
  apply keeps_initiateNextFilter
  exact ⟨atLeastOne, valid.withinGroups, by dsimp only; omega, atLeastOne,
    fun _ => ⟨Int.le_refl 1, Int.le_refl 1⟩⟩

theorem keeps_completeImage {imager : Imager} (valid : imager.Valid) :
    imager.completeImage.Keeps imager.groups imager.maxGroup := by
  obtain ⟨atLeastOne, withinGroups, groupNonneg, groupWithin, running⟩ := valid
  unfold completeImage
  split
  · split
    · exact keeps_done (Valid.halt ⟨atLeastOne, withinGroups, groupNonneg, groupWithin, running⟩
        .ok (by decide))
    · rename_i notLast
      refine keeps_withGroup groupNonneg (by omega) withinGroups fun _ => ?_
      apply keeps_initiateNextFilter
      exact ⟨atLeastOne, withinGroups, by dsimp only; omega, by dsimp only; omega,
        fun _ => ⟨by dsimp only; omega, Int.le_refl 1⟩⟩
  · apply keeps_initiateNextFilter
    exact ⟨atLeastOne, withinGroups, groupNonneg, groupWithin,
      fun busy => ⟨(running busy).1, by have := (running busy).2; dsimp only; omega⟩⟩

theorem keeps_batchSwitch (switches : List (String × Bool)) :
    ∀ {imager : Imager}, imager.Valid →
      (imager.batchSwitch switches).Keeps imager.groups imager.maxGroup := by
  induction switches with
  | nil => exact fun valid => keeps_done valid
  | cons switch rest ih =>
      intro imager valid
      refine keeps_andThen ?_ fun started startedValid sameGroups sameMax => ?_
      · split
        · exact keeps_startBatch valid
        · exact keeps_done valid
      · rw [← sameGroups, ← sameMax]
        split
        · exact ih (startedValid.halt .alert (by decide))
        · exact ih startedValid

theorem keeps_blobUpdate (widgets : Nat) :
    ∀ {imager : Imager}, imager.Valid →
      (imager.blobUpdate widgets).Keeps imager.groups imager.maxGroup := by
  induction widgets with
  | zero => exact fun valid => keeps_done valid
  | succ count ih =>
      intro imager valid
      refine keeps_andThen ?_ fun completed completedValid sameGroups sameMax => ?_
      · split
        · exact keeps_completeImage valid
        · exact keeps_done valid
      · rw [← sameGroups, ← sameMax]
        exact ih completedValid

theorem keeps_handle {imager : Imager} (valid : imager.Valid) {event : ImagerEvent}
    (notCount : event.newGroupCount = none) :
    (imager.handle event).Keeps imager.groups imager.maxGroup := by
  cases event with
  | batch switches => exact keeps_batchSwitch switches valid
  | blob widgets => exact keeps_blobUpdate widgets valid
  | filePath => exact keeps_completeImage valid
  | number name value =>
      have other : name ≠ "GROUP_COUNT" := fun named => by simp [ImagerEvent.newGroupCount, named] at notCount
      simpa only [handle, newNumber, if_neg other] using keeps_done valid

theorem safe_andThen {first : Handled} (inRange : ∀ lookup ∈ first.lookups, lookup.inRange = true)
    {imager : Imager} (left : first.after = some imager) {next : Imager → Handled}
    (rest : (next imager).Safe) : (first.andThen next).Safe := by
  refine ⟨?_, ?_⟩
  · simp only [Handled.andThen, left, List.mem_append]
    rintro lookup (early | late)
    exacts [inRange lookup early, rest.inRange lookup late]
  · simpa only [Handled.andThen, left] using rest.survives

theorem Valid.setGroupCount {imager : Imager} (valid : imager.Valid) {bound value : Int}
    (positive : 1 ≤ bound) (capped : imager.maxGroup = if bound > imager.groups.length then
      (imager.groups.length : Int) else bound) (raised : bound ≤ value) :
    (imager.setGroupCount value).Valid := by
  obtain ⟨atLeastOne, withinGroups, groupNonneg, groupWithin, running⟩ := valid
  refine ⟨?_, ?_, groupNonneg, ?_, running⟩ <;> simp only [Imager.setGroupCount] <;>
    split_ifs at capped ⊢ <;>
    omega

theorem run_safe (events : List ImagerEvent) :
    ∀ {imager : Imager} {bound : Int}, imager.Valid → 1 ≤ bound →
      imager.maxGroup = (if bound > imager.groups.length then (imager.groups.length : Int) else bound) →
      List.Chain (· ≤ ·) bound (events.filterMap ImagerEvent.newGroupCount) → (imager.run events).Safe := by
  induction events with
  | nil =>
      intro imager bound valid _ _ _
      exact ⟨by simp [run, Handled.done], imager, rfl,
        fun busy => ⟨(valid.running busy).1, valid.groupWithin, (valid.running busy).2⟩⟩
  | cons event events ih =>
      intro imager bound valid positive capped raised
      cases counted : event.newGroupCount with
      | none =>
          rw [List.filterMap_cons_none counted] at raised
          have kept := keeps_handle valid counted
          obtain ⟨after, left, afterValid, sameGroups, sameMax⟩ := kept.after
          exact safe_andThen kept.inRange left
            (ih afterValid positive (by rw [sameMax, sameGroups]; exact capped) raised)
      | some value =>
          obtain ⟨name, count⟩ | _ := event <;> simp only [ImagerEvent.newGroupCount, reduceCtorEq] at counted
          split_ifs at counted with named
          cases counted
          simp only [List.filterMap_cons, ImagerEvent.newGroupCount, named, if_true, List.chain_cons] at raised
          exact safe_andThen (by simp [handle, Handled.done]) (by simp [handle, newNumber, named, Handled.done])
            (ih (valid.setGroupCount positive capped raised.1) (Int.le_trans positive raised.1) rfl
              raised.2)

/-- From a connected imager, over every run that only raises the group count, every
`getGroup` asks for a group in use, and a running batch is at a group in `1..maxGroup`
and an image from `1`. -/
theorem raised_group_counts_keep_batch_safe (groups : List Group) (maxImage : Int)
    (ccd filter : Bool) (filterSlot : Int) (nonempty : groups ≠ []) (events : List ImagerEvent)
    (raised : List.Chain (· ≤ ·) 1 (events.filterMap ImagerEvent.newGroupCount)) :
    ((connected groups maxImage ccd filter filterSlot).run events).Safe := by
  have someGroup : (1 : Int) ≤ groups.length := by
    have := List.length_pos.mpr nonempty
    omega
  refine run_safe events ⟨Int.le_refl 1, someGroup, Int.le_refl 0, by simp [connected], nofun⟩
    (Int.le_refl 1) ?_ raised
  simp only [connected]
  split_ifs <;> omega

def raisedCounts : List ImagerEvent :=
  [.number "GROUP_COUNT" 2, .batch [("START", true)], .blob 1, .number groupsVector 1,
    .number "GROUP_COUNT" 3, .filePath, .blob 2]

theorem raised_group_counts_in_batch :
    (List.replicate 3 ({ count := 1, filterSlot := 0 } : Group)) ≠ [] ∧
    List.Chain (· ≤ ·) 1 (raisedCounts.filterMap ImagerEvent.newGroupCount) ∧
    ((connected (List.replicate 3 ⟨1, 0⟩) 0 true false 0).run raisedCounts).Safe :=
  have raised : List.Chain (· ≤ ·) 1 (raisedCounts.filterMap ImagerEvent.newGroupCount) := by
    simp [raisedCounts, ImagerEvent.newGroupCount, groupsVector]
  ⟨by decide, raised, raised_group_counts_keep_batch_safe _ 0 true false 0 (by decide) _ raised⟩

end Imager

end Indi
