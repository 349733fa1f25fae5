import Indi.Drivers.ImagerBatch

/-!
# The imager as a client of its devices

The imager drives a CCD and a filter wheel through the server, as a client. Besides its
own image completions, `Imager::updateProperty` handles what the devices report: a
`CONNECTION` update lights the status of the CCD or of the filter wheel, and a
`FILTER_SLOT` update of the filter wheel notes the slot reached and, once it is `Ok`,
starts the capture of the current image. The client's other callbacks, for the server
and for the definitions of the devices, set the same lights. These reports come in any
order between the completions, and they leave the batch where it is: over any
interleaving of completions and reports, the batch is at the image of `batchOrder` that
the completions alone number, and it keeps running as long as no light goes out. A run
of completions alone is the case without reports.
-/

set_option autoImplicit false

namespace Indi

/-- An event of the imager as a client: a batch event, the server callbacks, and the
definitions and updates of the controlled devices' `CONNECTION` and `FILTER_SLOT`. -/
inductive AgentEvent where
  | imager (event : ImagerEvent)
  | serverConnected
  | newDevice (ccd filterWheel : Bool)
  | newConnection (ccd filterWheel switchedOn : Bool)
  | updateConnection (ccd filterWheel switchedOn : Bool)
  | updateFilterSlot (slot : Int) (ok : Bool)
  | serverDisconnected
  | disconnect
  deriving DecidableEq, Repr

namespace AgentEvent

/-- What the server reports of itself or of the controlled devices, as opposed to the
events of the batch and the imager's own `Disconnect`. -/
def isReport : AgentEvent → Bool
  | .imager _ | .disconnect => false
  | _ => true

/-- A report that puts out no status light. -/
def keepsConnected : AgentEvent → Bool
  | .serverConnected | .serverDisconnected => false
  | .newDevice ccd filterWheel => !(ccd || filterWheel)
  | .updateConnection ccd filterWheel switchedOn => switchedOn || !(ccd || filterWheel)
  | _ => true

end AgentEvent

namespace Imager

/-- The status lights as a callback leaves them: it sets the light of the CCD if `ccd`,
that of the filter wheel if `filterWheel`, to `Ok` if `lit` and to `Busy` or `Alert` if
not. -/
def setStatus (imager : Imager) (ccd filterWheel lit : Bool) : Imager :=
  let withCCD := if ccd then { imager with ccdConnected := lit } else imager
  if filterWheel then { withCCD with filterConnected := lit } else withCCD

/-- `Imager::serverConnected`: both lights `Alert`. -/
def serverConnected (imager : Imager) : Imager :=
  imager.setStatus true true false

/-- `Imager::newDevice`: the light of a controlled device `Busy`. -/
def newDevice (imager : Imager) (ccd filterWheel : Bool) : Imager :=
  imager.setStatus ccd filterWheel false

/-- `Imager::newProperty` of `CONNECTION`: the light of a controlled device `Ok` if it is
connected; if not, the imager asks the server to connect it and leaves the light. -/
def newProperty (imager : Imager) (ccd filterWheel switchedOn : Bool) : Imager :=
  if switchedOn then imager.setStatus ccd filterWheel true else imager

/-- The `CONNECTION` branch of `updateProperty`: the light of a controlled device `Ok` when
the first switch is on and `Busy` when not. -/
def updateConnection (imager : Imager) (ccd filterWheel switchedOn : Bool) : Imager :=
  imager.setStatus ccd filterWheel switchedOn

/-- The `FILTER_SLOT` branch of `updateProperty`: `FilterSlotN[0].value` takes the slot
reported, and an `Ok` state starts the capture. -/
def updateFilterSlot (imager : Imager) (slot : Int) (ok : Bool) : Handled :=
  let moved := { imager with filterSlot := slot }
  if ok then moved.initiateNextCapture else .done moved

/-- `Imager::serverDisconnected`: both lights `Alert`. -/
def serverDisconnected (imager : Imager) : Imager :=
  imager.setStatus true true false

/-- `Imager::Disconnect`: abort a running batch, then leave the server. -/
def disconnect (imager : Imager) : Imager :=
  if imager.isRunning then imager.abortBatch else imager

def handleAgent (imager : Imager) : AgentEvent → Handled
  | .imager event => imager.handle event
  | .serverConnected => .done imager.serverConnected
  | .newDevice ccd filterWheel => .done (imager.newDevice ccd filterWheel)
  | .newConnection ccd filterWheel switchedOn => .done (imager.newProperty ccd filterWheel switchedOn)
  | .updateConnection ccd filterWheel switchedOn => .done (imager.updateConnection ccd filterWheel switchedOn)
  | .updateFilterSlot slot ok => imager.updateFilterSlot slot ok
  | .serverDisconnected => .done imager.serverDisconnected
  | .disconnect => .done imager.disconnect

/-- The events in order, until a handler dereferences a null group. -/
def runAgent (imager : Imager) : List AgentEvent → Handled
  | [] => .done imager
  | event :: events => (imager.handleAgent event).andThen (·.runAgent events)

theorem runAgent_map_imager (events : List ImagerEvent) :
    ∀ imager : Imager, imager.runAgent (events.map .imager) = imager.run events := by
  induction events with
  | nil => exact fun _ => rfl
  | cons event events ih =>
      intro imager
      simp only [List.map_cons, runAgent, run, handleAgent, ih]

theorem runAgent_cons_after {imager next : Imager} {event : AgentEvent} {events : List AgentEvent}
    (handled : (imager.handleAgent event).after = some next) :
    (imager.runAgent (event :: events)).after = (next.runAgent events).after := by
  simp only [runAgent, Handled.andThen, handled]

theorem initiateNextCapture_idle {imager : Imager} (idle : imager.isRunning = false) :
    imager.initiateNextCapture = .done imager := by
  simp [initiateNextCapture, idle]

/-!
## One report
-/

theorem setStatus_report (imager : Imager) (ccd filterWheel lit : Bool) :
    ∃ progress filterSlot ccdLit filterLit, some (imager.setStatus ccd filterWheel lit) =
        some { imager with progress, filterSlot, ccdConnected := ccdLit, filterConnected := filterLit } ∧
      (imager.isRunning = false ∨ ccdLit = true → progress = imager.progress) ∧
      ((lit || !(ccd || filterWheel)) = true →
        (imager.ccdConnected = true → ccdLit = true) ∧ (imager.filterConnected = true → filterLit = true)) := by
  refine ⟨imager.progress, imager.filterSlot, if ccd then lit else imager.ccdConnected,
    if filterWheel then lit else imager.filterConnected, by cases ccd <;> cases filterWheel <;> rfl,
    fun _ => rfl, fun kept => ?_⟩
  cases ccd <;> cases filterWheel <;> simp_all

theorem handleAgent_report {imager : Imager} (within : imager.maxGroup ≤ imager.groups.length)
    {event : AgentEvent} (report : event.isReport = true) :
    ∃ progress filterSlot ccd filter, (imager.handleAgent event).after =
        some { imager with progress, filterSlot, ccdConnected := ccd, filterConnected := filter } ∧
      (imager.isRunning = false ∨ ccd = true → progress = imager.progress) ∧
      (event.keepsConnected = true →
        (imager.ccdConnected = true → ccd = true) ∧ (imager.filterConnected = true → filter = true)) := by
  cases event with
  | imager event => cases report
  | disconnect => cases report
  | serverConnected => exact setStatus_report imager true true false
  | serverDisconnected => exact setStatus_report imager true true false
  | newDevice ccd filterWheel => exact setStatus_report imager ccd filterWheel false
  | newConnection ccd filterWheel switchedOn =>
      cases switchedOn
      · exact setStatus_report imager false false true
      · exact setStatus_report imager ccd filterWheel true
  | updateConnection ccd filterWheel switchedOn => exact setStatus_report imager ccd filterWheel switchedOn
  | updateFilterSlot slot ok =>
      cases ok
      · exact ⟨imager.progress, slot, imager.ccdConnected, imager.filterConnected, rfl, fun _ => rfl,
          fun _ => ⟨id, id⟩⟩
      · obtain ⟨progress, captured, kept⟩ := @initiateNextCapture_after { imager with filterSlot := slot } within
        refine ⟨progress, slot, imager.ccdConnected, imager.filterConnected, captured, fun quiet => ?_,
          fun _ => ⟨id, id⟩⟩
        rcases quiet with idle | connected
        · rw [@initiateNextCapture_idle { imager with filterSlot := slot } idle] at captured
          exact (congrArg Imager.progress (Option.some.inj captured)).symm
        · exact kept connected

/-!
## Whole runs
-/

theorem runAgent_done {imager : Imager} (within : imager.maxGroup ≤ imager.groups.length)
    (last : imager.image = imager.maxImage) (final : imager.group = imager.maxGroup)
    (finished : imager.progress = .ok) (events : List AgentEvent)
    (interleaved : ∀ event ∈ events, event = .imager .filePath ∨ event.isReport = true) :
    ∃ after, (imager.runAgent events).after = some after ∧ after.group = imager.group ∧
      after.image = imager.image ∧ after.progress = .ok := by
  induction events generalizing imager with
  | nil => exact ⟨imager, rfl, rfl, rfl, finished⟩
  | cons event events ih =>
      have rest := fun other member => interleaved other (List.mem_cons_of_mem event member)
      rcases interleaved event (List.mem_cons_self _ _) with rfl | report
      · have again : imager.completeImage = .done imager := by
          rw [completeImage, if_pos last, if_pos final, batchDone, ← finished]
        rw [runAgent_cons_after (by simp only [handleAgent, handle, again]; rfl)]
        exact ih within last final finished rest
      · obtain ⟨progress, filterSlot, ccd, filter, handled, kept, -⟩ := handleAgent_report within report
        have idle : imager.isRunning = false := by simp [isRunning, finished]
        rw [runAgent_cons_after handled]
        exact ih within last final ((kept (.inl idle)).trans finished) rest

theorem OnCourse.runAgent_reports (events : List AgentEvent) :
    ∀ {imager : Imager}, imager.OnCourse →
      (∀ event ∈ events, event = .imager .filePath ∨ event.isReport = true) →
      ∃ after, (imager.runAgent events).after = some after ∧
        (events.count (.imager .filePath) < imager.remaining.length →
          imager.remaining[events.count (.imager .filePath)]? = some (after.group, after.image) ∧
          (imager.Ready → (∀ event ∈ events, event.keepsConnected = true) →
            after.progress = imager.progress)) ∧
        (imager.remaining.length ≤ events.count (.imager .filePath) →
          after.progress = .ok ∧ imager.remaining.getLast? = some (after.group, after.image)) := by
  induction events with
  | nil =>
      intro imager course _
      rw [List.count_nil]
      refine ⟨imager, rfl, fun _ => ⟨by rw [remaining_eq_cons course.imageWithin, List.getElem?_cons_zero],
        fun _ _ => rfl⟩, fun empty => ?_⟩
      rw [remaining_eq_cons course.imageWithin] at empty
      cases empty
  | cons event events ih =>
      intro imager course interleaved
      have rest := fun other member => interleaved other (List.mem_cons_of_mem event member)
      rcases interleaved event (List.mem_cons_self _ _) with rfl | report
      · rw [List.count_cons_self]
        obtain ⟨moved, completes, next | ⟨ended, rfl, last, final⟩⟩ := course.complete
        · obtain ⟨course', dropped, kept⟩ := next
          obtain ⟨after, ran, within, beyond⟩ := ih course' rest
          rw [dropped] at within beyond
          obtain ⟨head, tail, split⟩ : ∃ head tail, imager.remaining.tail = head :: tail := by
            rw [← dropped, remaining_eq_cons course'.imageWithin]
            exact ⟨_, _, rfl⟩
          refine ⟨after, by rw [@runAgent_cons_after imager moved (.imager .filePath) _ completes, ran], fun below => ?_,
            fun above => ?_⟩
          · obtain ⟨found, running⟩ := within (by rw [List.length_tail]; omega)
            refine ⟨by rw [← List.getElem?_tail]; exact found, fun ready connected => ?_⟩
            rw [running (kept ready).1 fun other member => connected other (List.mem_cons_of_mem _ member),
              (kept ready).2]
          · obtain ⟨finished, lastOf⟩ := beyond (by rw [List.length_tail]; omega)
            refine ⟨finished, ?_⟩
            rw [remaining_eq_cons course.imageWithin, List.tail_cons] at split lastOf
            rw [remaining_eq_cons course.imageWithin, split, List.getLast?_cons_cons, ← split, lastOf]
        · have single : imager.remaining = [(imager.group, imager.image)] := by
            rw [remaining_eq_cons course.imageWithin] at ended ⊢
            rw [List.tail_cons] at ended
            rw [ended]
          obtain ⟨after, ran, sameGroup, sameImage, finished⟩ :=
            @runAgent_done imager.batchDone course.withinGroups last final rfl events rest
          refine ⟨after, by rw [@runAgent_cons_after imager _ (.imager .filePath) _ completes, ran], fun below => ?_,
            fun _ => ⟨finished, by rw [single, sameGroup, sameImage]; rfl⟩⟩
          rw [single] at below
          simp at below
      · have other : event ≠ .imager .filePath := by
          rintro rfl
          cases report
        rw [List.count_cons_of_ne (Ne.symm other)]
        obtain ⟨progress, filterSlot, ccd, filter, handled, kept, lit⟩ :=
          handleAgent_report course.withinGroups report
        obtain ⟨after, ran, within, beyond⟩ := @ih
          { imager with progress, filterSlot, ccdConnected := ccd, filterConnected := filter }
          ⟨course.withinGroups, course.groupPos, course.groupWithin, course.imagePos, course.imageWithin,
            course.counted⟩ rest
        refine ⟨after, by rw [runAgent_cons_after handled, ran], fun below => ⟨(within below).1,
          fun ready connected => ?_⟩, beyond⟩
        have stillLit := lit (connected event (List.mem_cons_self _ _))
        rw [(within below).2 ⟨stillLit.1 ready.1, fun group member => (ready.2 group member).imp_left stillLit.2⟩
          fun other member => connected other (List.mem_cons_of_mem _ member)]
        exact kept (.inr (stillLit.1 ready.1))

/-!
## Completions alone
-/

theorem run_cons_after {imager next : Imager} {event : ImagerEvent} {events : List ImagerEvent}
    (handled : (imager.handle event).after = some next) :
    (imager.run (event :: events)).after = (next.run events).after := by
  simp only [run, Handled.andThen, handled]

theorem OnCourse.run_completions (completed : Nat) :
    ∀ {imager : Imager}, imager.OnCourse →
      ∃ after, (imager.run (List.replicate completed .filePath)).after = some after ∧
        (completed < imager.remaining.length → imager.remaining[completed]? = some (after.group, after.image) ∧
          (imager.Ready → after.progress = imager.progress)) ∧
        (imager.remaining.length ≤ completed →
          after.progress = .ok ∧ imager.remaining.getLast? = some (after.group, after.image)) := by
  intro imager course
  obtain ⟨after, ran, within, beyond⟩ := course.runAgent_reports (List.replicate completed (.imager .filePath))
    fun _ member => .inl (List.eq_of_mem_replicate member)
  rw [List.count_replicate_self] at within beyond
  refine ⟨after, by rw [← runAgent_map_imager, List.map_replicate, ran], fun below =>
    ⟨(within below).1, fun ready => (within below).2 ready fun _ member => by
      rw [List.eq_of_mem_replicate member]
      rfl⟩, beyond⟩

/-- From an idle imager whose groups in use each have an image, `START` and `completed`
image completions reach image `completed` of `batchOrder`, running while the devices are
ready; from the last image on, the batch is done. -/
theorem batch_takes_images_in_order (imager : Imager) (idle : imager.isRunning = false)
    (someGroup : 1 ≤ imager.maxGroup) (withinGroups : imager.maxGroup ≤ imager.groups.length)
    (counted : ∀ group ∈ imager.groups.take imager.maxGroup.toNat, 1 ≤ group.count) (completed : Nat) :
    ∃ after, (imager.run (.batch [("START", true)] :: List.replicate completed .filePath)).after = some after ∧
      (completed < imager.batchOrder.length → imager.batchOrder[completed]? = some (after.group, after.image) ∧
        (imager.Ready → after.isRunning = true)) ∧
      (imager.batchOrder.length ≤ completed →
        after.progress = .ok ∧ imager.batchOrder.getLast? = some (after.group, after.image)) := by
  obtain ⟨started, starts, course, ordered, busy⟩ := startBatch_onCourse someGroup withinGroups counted
  have begun : (imager.handle (.batch [("START", true)])).after = some started := by
    simp only [handle, batchSwitch, idle, and_self, if_true, Handled.andThen, starts]
    rfl
  obtain ⟨after, ran, within, beyond⟩ := course.run_completions completed
  rw [ordered] at within beyond
  refine ⟨after, by rw [run_cons_after begun, ran], fun below => ⟨(within below).1, fun ready => ?_⟩, beyond⟩
  rw [isRunning, (within below).2 (busy ready).1, (busy ready).2]
  rfl

def twoOneThree : Imager :=
  { connected [⟨2, 0⟩, ⟨1, 0⟩, ⟨3, 0⟩] 0 true false 0 with maxGroup := 3 }

example : twoOneThree.batchOrder = [(1, 1), (1, 2), (2, 1), (3, 1), (3, 2), (3, 3)] := by decide

/-- The completion numbered `3` finds the batch at image `1` of group `3`. -/
theorem two_one_three_batch_order :
    twoOneThree.isRunning = false ∧ 1 ≤ twoOneThree.maxGroup ∧
    twoOneThree.maxGroup ≤ twoOneThree.groups.length ∧
    (∀ group ∈ twoOneThree.groups.take twoOneThree.maxGroup.toNat, 1 ≤ group.count) ∧
    ∃ after, (twoOneThree.run (.batch [("START", true)] :: List.replicate 3 .filePath)).after = some after ∧
      (3 < twoOneThree.batchOrder.length → twoOneThree.batchOrder[3]? = some (after.group, after.image) ∧
        (twoOneThree.Ready → after.isRunning = true)) ∧
      (twoOneThree.batchOrder.length ≤ 3 →
        after.progress = .ok ∧ twoOneThree.batchOrder.getLast? = some (after.group, after.image)) :=
  ⟨by decide, by decide, by decide, by decide,
    batch_takes_images_in_order twoOneThree (by decide) (by decide) (by decide) (by decide) 3⟩

/-- A batch takes its images in order whatever the server reports between completions:
it is at the image of `batchOrder` the completions alone number, running while the
devices were ready and no report put out a light. -/
theorem batch_order_across_reports (imager : Imager) (idle : imager.isRunning = false)
    (someGroup : 1 ≤ imager.maxGroup) (withinGroups : imager.maxGroup ≤ imager.groups.length)
    (counted : ∀ group ∈ imager.groups.take imager.maxGroup.toNat, 1 ≤ group.count)
    (events : List AgentEvent)
    (interleaved : ∀ event ∈ events, event = .imager .filePath ∨ event.isReport = true) :
    ∃ after, (imager.runAgent (.imager (.batch [("START", true)]) :: events)).after = some after ∧
      (events.count (.imager .filePath) < imager.batchOrder.length →
        imager.batchOrder[events.count (.imager .filePath)]? = some (after.group, after.image) ∧
        (imager.Ready → (∀ event ∈ events, event.keepsConnected = true) → after.isRunning = true)) ∧
      (imager.batchOrder.length ≤ events.count (.imager .filePath) →
        after.progress = .ok ∧ imager.batchOrder.getLast? = some (after.group, after.image)) := by
  obtain ⟨started, starts, course, ordered, busy⟩ := startBatch_onCourse someGroup withinGroups counted
  have begun : (imager.handleAgent (.imager (.batch [("START", true)]))).after = some started := by
    simp only [handleAgent, handle, batchSwitch, idle, and_self, if_true, Handled.andThen, starts]
    rfl
  obtain ⟨after, ran, within, beyond⟩ := course.runAgent_reports events interleaved
  rw [ordered] at within beyond
  refine ⟨after, by rw [runAgent_cons_after begun, ran], fun below => ⟨(within below).1,
    fun ready connected => ?_⟩, beyond⟩
  rw [isRunning, (within below).2 (busy ready).1 connected, (busy ready).2]
  rfl

def filteredPair : Imager :=
  { connected [⟨1, 2⟩, ⟨2, 0⟩] 0 true true 0 with maxGroup := 2 }

def reportsBetween : List AgentEvent :=
  [.updateFilterSlot 2 true, .imager .filePath, .updateConnection true false true, .imager .filePath]

example : (filteredPair.runAgent (.imager (.batch [("START", true)]) :: reportsBetween)).after.map
    (fun imager => (imager.group, imager.image, imager.isRunning)) = some (2, 2, true) := by decide

/-- The wheel reports slot `2`, the first image completes, the CCD's connection is
updated, and the second completes: the batch is at image `2` of group `2`. -/
theorem filter_report_between_completions :
    filteredPair.isRunning = false ∧ 1 ≤ filteredPair.maxGroup ∧
    filteredPair.maxGroup ≤ filteredPair.groups.length ∧
    (∀ group ∈ filteredPair.groups.take filteredPair.maxGroup.toNat, 1 ≤ group.count) ∧
    (∀ event ∈ reportsBetween, event = .imager .filePath ∨ event.isReport = true) ∧
    ∃ after, (filteredPair.runAgent (.imager (.batch [("START", true)]) :: reportsBetween)).after = some after ∧
      (reportsBetween.count (.imager .filePath) < filteredPair.batchOrder.length →
        filteredPair.batchOrder[reportsBetween.count (.imager .filePath)]? = some (after.group, after.image) ∧
        (filteredPair.Ready → (∀ event ∈ reportsBetween, event.keepsConnected = true) → after.isRunning = true)) ∧
      (filteredPair.batchOrder.length ≤ reportsBetween.count (.imager .filePath) →
        after.progress = .ok ∧ filteredPair.batchOrder.getLast? = some (after.group, after.image)) :=
  ⟨by decide, by decide, by decide, by decide, by decide,
    batch_order_across_reports filteredPair (by decide) (by decide) (by decide) (by decide) _ (by decide)⟩

end Imager

end Indi
