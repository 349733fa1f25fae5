import Indi.Drivers.Imager

/-!
# The order of a batch

What a batch does with its image completions. Started from `START`, it takes the images
of group `1` to `maxGroup` in turn, and in each group the images `1` to the group's
count. Each completion moves it to the next image; the one at the last image ends the
batch, and later ones leave it there. `remaining` lists the images a batch has still to
take, and one completion drops its head.
-/

set_option autoImplicit false

namespace Indi

namespace Imager

/-!
## The batch order
-/

/-- The images `image`, `image + 1`, ... of group `group`, `count` of them. -/
def imagesFrom (group image : Int) (count : Nat) : List (Int × Int) :=
  (List.range count).map fun offset : Nat => (group, image + offset)

/-- The images of the groups numbered from `group` on, whose image counts are `counts`. -/
def groupsFrom (group : Int) : List Nat → List (Int × Int)
  | [] => []
  | count :: counts => imagesFrom group 1 count ++ groupsFrom (group + 1) counts

/-- The image counts of the groups in use after the first `group`. -/
def countsAfter (imager : Imager) (group : Int) : List Nat :=
  ((imager.groups.drop group.toNat).take (imager.maxGroup - group).toNat).map (·.count.toNat)

/-- The order in which a batch takes its images: groups `1` to `maxGroup`, and in each
its images `1` to its count. -/
def batchOrder (imager : Imager) : List (Int × Int) :=
  groupsFrom 1 (imager.countsAfter 0)

/-- The images a batch has still to take, the current one first. -/
def remaining (imager : Imager) : List (Int × Int) :=
  imagesFrom imager.group imager.image (imager.maxImage - imager.image + 1).toNat ++
    groupsFrom (imager.group + 1) (imager.countsAfter imager.group)

theorem imagesFrom_succ (group image : Int) (count : Nat) :
    imagesFrom group image (count + 1) = (group, image) :: imagesFrom group (image + 1) count := by
  simp only [imagesFrom, List.range_succ_eq_map, List.map_cons, List.map_map, List.cons.injEq]
  refine ⟨by simp, List.map_congr_left fun offset _ => ?_⟩
  simp only [Function.comp_apply, Nat.succ_eq_add_one, Prod.mk.injEq, true_and]
  omega

theorem countsAfter_cons {imager : Imager} {group : Int} (nonneg : 0 ≤ group)
    (below : group < imager.maxGroup) (within : imager.maxGroup ≤ imager.groups.length) :
    imager.countsAfter group =
      (imager.groups[group.toNat]?.map (·.count.toNat)).getD 0 :: imager.countsAfter (group + 1) := by
  have inside : group.toNat < imager.groups.length := by omega
  unfold countsAfter
  rw [List.drop_eq_getElem_cons inside, List.getElem?_eq_getElem inside,
    show (imager.maxGroup - group).toNat = (imager.maxGroup - (group + 1)).toNat + 1 by omega,
    show (group + 1).toNat = group.toNat + 1 by omega]
  rfl

theorem countsAfter_maxGroup (imager : Imager) : imager.countsAfter imager.maxGroup = [] := by
  simp [countsAfter]

/-!
## One completion
-/

theorem getGroup_eq {imager : Imager} {index : Int} (nonneg : 0 ≤ index) (within : index ≤ imager.maxGroup) :
    imager.getGroup index = imager.groups[index.toNat]? := by
  simp [getGroup, show -1 < index by omega, within]

theorem withGroup_after {imager : Imager} {index : Int} {found : Group} (located : imager.getGroup index = some found)
    (use : Group → Handled) : (imager.withGroup index use).after = (use found).after := by
  simp only [withGroup, located]

/-- The controlled devices let a batch run: the CCD is connected, and the filter wheel
is, or every group in use leaves the filter slot at `0`. -/
def Ready (imager : Imager) : Prop :=
  imager.ccdConnected = true ∧
    ∀ group ∈ imager.groups.take imager.maxGroup.toNat, imager.filterConnected = true ∨ group.filterSlot = 0

theorem getGroup_current {imager : Imager} (guarded : imager.inBatch = true)
    (within : imager.maxGroup ≤ imager.groups.length) :
    ∃ current, imager.getGroup (imager.group - 1) = some current ∧
      current ∈ imager.groups.take imager.maxGroup.toNat := by
  simp only [inBatch, Bool.and_eq_true, decide_eq_true_eq] at guarded
  have inside : (imager.group - 1).toNat < imager.groups.length := by omega
  have located := List.getElem?_eq_getElem inside
  rw [@getGroup_eq imager (imager.group - 1) (by omega) (by omega), located]
  exact ⟨_, rfl, List.mem_iff_getElem?.mpr ⟨_, (@List.getElem?_take_of_lt _ imager.groups _ _ (by omega)).trans
    located⟩⟩

theorem initiateNextCapture_after {imager : Imager} (within : imager.maxGroup ≤ imager.groups.length) :
    ∃ progress, imager.initiateNextCapture.after = some { imager with progress := progress } ∧
      (imager.ccdConnected = true → progress = imager.progress) := by
  unfold initiateNextCapture
  split
  · rename_i guarded
    split
    · rename_i disconnected
      exact ⟨.alert, rfl, fun connected => by simp [connected] at disconnected⟩
    · obtain ⟨current, located, -⟩ := getGroup_current (Bool.and_eq_true _ _ ▸ guarded).2 within
      exact ⟨imager.progress, by simp only [withCurrentGroup, withGroup_after located, Handled.done],
        fun _ => rfl⟩
  · exact ⟨imager.progress, rfl, fun _ => rfl⟩

theorem initiateNextFilter_after {imager : Imager} (within : imager.maxGroup ≤ imager.groups.length) :
    ∃ progress filterSlot, imager.initiateNextFilter.after =
      some { imager with progress := progress, filterSlot := filterSlot } ∧
      (imager.Ready → progress = imager.progress) := by
  obtain ⟨captured, capture, kept⟩ := initiateNextCapture_after within
  unfold initiateNextFilter
  split
  · rename_i guarded
    obtain ⟨current, located, inUse⟩ := getGroup_current (Bool.and_eq_true _ _ ▸ guarded).2 within
    rw [withCurrentGroup, withGroup_after located]
    split
    · rename_i unplugged
      split
      · rename_i slotted
        refine ⟨.alert, imager.filterSlot, rfl, fun ready => ?_⟩
        rcases ready.2 current inUse with plugged | free
        · simp [plugged] at unplugged
        · exact absurd free slotted
      · exact ⟨captured, imager.filterSlot, capture, fun ready => kept ready.1⟩
    · split
      · exact ⟨imager.progress, current.filterSlot, rfl, fun _ => rfl⟩
      · exact ⟨captured, imager.filterSlot, capture, fun ready => kept ready.1⟩
  · exact ⟨imager.progress, imager.filterSlot, rfl, fun _ => rfl⟩

/-- A batch on its course: at a group in use and an image of it, where every group in
use has an image. -/
structure OnCourse (imager : Imager) : Prop where
  withinGroups : imager.maxGroup ≤ imager.groups.length
  groupPos : 1 ≤ imager.group
  groupWithin : imager.group ≤ imager.maxGroup
  imagePos : 1 ≤ imager.image
  imageWithin : imager.image ≤ imager.maxImage
  counted : ∀ group ∈ imager.groups.take imager.maxGroup.toNat, 1 ≤ group.count

theorem OnCourse.remaining_start {imager : Imager} (course : imager.OnCourse) (first : imager.group = 1)
    (image : imager.image = 1) {leading : Group} (found : imager.groups[0]? = some leading)
    (counted : leading.count = imager.maxImage) :
    imager.remaining = imager.batchOrder := by
  have started := course.imageWithin
  have inUse := course.groupWithin
  rw [batchOrder, @countsAfter_cons imager 0 (Int.le_refl 0) (by omega) course.withinGroups]
  simp only [remaining, groupsFrom, first, image, Int.toNat_zero, found, Option.map_some', Option.getD_some,
    counted, Int.sub_add_cancel]
  rfl

theorem remaining_eq_cons {imager : Imager} (imageWithin : imager.image ≤ imager.maxImage) :
    imager.remaining = (imager.group, imager.image) ::
      (imagesFrom imager.group (imager.image + 1) (imager.maxImage - imager.image).toNat ++
        groupsFrom (imager.group + 1) (imager.countsAfter imager.group)) := by
  rw [remaining, show (imager.maxImage - imager.image + 1).toNat = (imager.maxImage - imager.image).toNat + 1 by omega,
    imagesFrom_succ]
  rfl

theorem OnCourse.complete {imager : Imager} (course : imager.OnCourse) :
    ∃ after, imager.completeImage.after = some after ∧
      ((after.OnCourse ∧ after.remaining = imager.remaining.tail ∧
          (imager.Ready → after.Ready ∧ after.progress = imager.progress)) ∨
        (imager.remaining.tail = [] ∧ after = imager.batchDone ∧ imager.image = imager.maxImage ∧
          imager.group = imager.maxGroup)) := by
  obtain ⟨within, groupPos, groupWithin, imagePos, imageWithin, counted⟩ := course
  rw [remaining_eq_cons imageWithin, List.tail_cons]
  unfold completeImage
  split
  · rename_i last
    have emptied : imagesFrom imager.group (imager.image + 1) (imager.maxImage - imager.image).toNat = [] := by
      rw [last, Int.sub_self]
      rfl
    rw [emptied, List.nil_append]
    split
    · rename_i final
      exact ⟨_, rfl, .inr ⟨by rw [final, countsAfter_maxGroup]; rfl, rfl, last, final⟩⟩
    · rename_i notFinal
      have below : imager.group < imager.maxGroup := by omega
      have inside : imager.group.toNat < imager.groups.length := by omega
      have located : imager.groups[imager.group.toNat]? = some imager.groups[imager.group.toNat] :=
        List.getElem?_eq_getElem inside
      have nextCounted : 1 ≤ imager.groups[imager.group.toNat].count :=
        counted _ (List.mem_iff_getElem?.mpr ⟨_, (@List.getElem?_take_of_lt _ imager.groups _ _
          (by omega)).trans located⟩)
      obtain ⟨progress, filterSlot, moved, kept⟩ := @initiateNextFilter_after { imager with
        maxImage := imager.groups[imager.group.toNat].count, group := imager.group + 1, image := 1 } within
      rw [withNextGroup, withGroup_after ((@getGroup_eq imager imager.group (by omega)
        (Int.le_of_lt below)).trans located), moved]
      refine ⟨_, rfl, .inl ⟨⟨within, by dsimp only; omega, by dsimp only; omega, Int.le_refl 1, nextCounted,
        counted⟩, ?_, fun ready => ⟨ready, kept ready⟩⟩⟩
      rw [@countsAfter_cons imager imager.group (by omega) below within, located]
      simp only [remaining, groupsFrom, Int.sub_add_cancel, Option.map_some', Option.getD_some]
      rfl
  · rename_i notLast
    obtain ⟨progress, filterSlot, moved, kept⟩ := @initiateNextFilter_after
      { imager with image := imager.image + 1 } within
    rw [moved]
    refine ⟨_, rfl, .inl ⟨⟨within, groupPos, groupWithin, by dsimp only; omega, by dsimp only; omega, counted⟩, ?_,
      fun ready => ⟨ready, kept ready⟩⟩⟩
    simp only [remaining, show imager.maxImage - (imager.image + 1) + 1 = imager.maxImage - imager.image by omega]
    rfl

/-!
## Starting a batch
-/

theorem startBatch_onCourse {imager : Imager} (someGroup : 1 ≤ imager.maxGroup)
    (withinGroups : imager.maxGroup ≤ imager.groups.length)
    (counted : ∀ group ∈ imager.groups.take imager.maxGroup.toNat, 1 ≤ group.count) :
    ∃ started, imager.startBatch.after = some started ∧ started.OnCourse ∧
      started.remaining = imager.batchOrder ∧ (imager.Ready → started.Ready ∧ started.progress = .busy) := by
  have inside : 0 < imager.groups.length := by omega
  have located : imager.groups[0]? = some imager.groups[0] := List.getElem?_eq_getElem inside
  have firstCounted : 1 ≤ imager.groups[0].count :=
    counted _ (List.mem_iff_getElem?.mpr ⟨0, (@List.getElem?_take_of_lt _ imager.groups _ 0 (by omega)).trans located⟩)
  obtain ⟨progress, filterSlot, moved, kept⟩ := @initiateNextFilter_after
    { imager with group := 1, image := 1, maxImage := imager.groups[0].count, progress := .busy } withinGroups
  have course : OnCourse
      { imager with group := 1, image := 1, maxImage := imager.groups[0].count, progress, filterSlot } :=
    ⟨withinGroups, Int.le_refl 1, someGroup, Int.le_refl 1, firstCounted, counted⟩
  refine ⟨_, ?_, course, course.remaining_start rfl rfl located rfl, fun ready => ⟨ready, kept ready⟩⟩
  have first := @getGroup_eq { imager with group := 1, image := 1 } 0 (Int.le_refl 0) (by dsimp only; omega)
  simp only [Int.toNat_zero, located] at first
  simp only [startBatch, withCurrentGroup, show (1 : Int) - 1 = 0 from rfl]
  rw [withGroup_after first]
  exact moved

end Imager

end Indi
