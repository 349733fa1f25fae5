import Indi.Base.Concurrency

/-!
# Concurrent definitions of distinct names

Threads that define vectors of distinct names race on `pAll` as any definitions do: each
scans under the lock, lets it go, and appends under the lock again. Yet no scan can find
another thread's entry, since that entry bears another name. So over every schedule no
scan finds a match, each thread that returns has appended exactly when its call got past
the checks and kept a widget, and once all have returned `pAll` holds one new entry for
each of them: none is lost and none is added twice.
-/

set_option autoImplicit false

namespace Indi

open BaseDevice

/-- Whether the name a definition looks up, in bytes, leaves room in the name array for
`indi_strlcpy`'s terminating zero, so that the entry it appends bears that name. -/
def Definition.NameFits (host : Host) : Definition → Prop
  | .buildProp root _ => (valueText (root.getAttribute "name")).length < host.capacities.name
  | .registerProperty _ => True

instance (host : Host) : DecidablePred (Definition.NameFits host) := fun definition => by
  cases definition <;> unfold Definition.NameFits <;> infer_instance

theorem Definition.step_appends_own_name (host : Host) (device : BaseDevice) (definition : Definition)
    (phase : DefinitionPhase) (fits : definition.NameFits host) {property : Property}
    (grown : (definition.step host device phase).1.pAll = device.pAll ++ [property]) :
    property.name = definition.name := by
  have still : ∀ {after : List Property}, after = device.pAll → after = device.pAll ++ [property] → False :=
    fun same longer => by simpa using congrArg List.length (same.symm.trans longer)
  cases definition with
  | buildProp root isDynamic =>
      cases phase with
      | start =>
          simp only [step] at grown
          split at grown <;> exact (still rfl grown).elim
      | scanned found =>
          cases found
          · simp only [step] at grown
            split at grown
            · rename_i type tagged
              obtain ⟨widgets, built⟩ := Option.isSome_iff_exists.mp
                (defWidgets_isSome host root (defTagType_ne_unknown tagged))
              rw [defineProperty_pAll host device root isDynamic built] at grown
              split at grown
              · exact (still (List.append_nil _) grown).elim
              · rw [← List.singleton_inj.mp (List.append_cancel_left grown)]
                simp only [definedProperty, Node.fitted, fit_of_lt fits, name]
            · exact (still rfl grown).elim
          · exact (still rfl grown).elim
      | finished => exact (still rfl grown).elim
  | registerProperty registered =>
      cases phase with
      | start => exact (still rfl grown).elim
      | scanned found =>
          cases found
          · rw [← List.singleton_inj.mp (List.append_cancel_left grown)]
            rfl
          · exact (still (updateFirst_markRegistered _ _ _) grown).elim
      | finished => exact (still rfl grown).elim

namespace Threads

variable (host : Host)

theorem map_fst_set {Call Phase : Type} {threads : List (Call × Phase)} {index : Nat}
    (bound : index < threads.length) {call : Call} {phase moved : Phase}
    (located : threads[index] = (call, phase)) :
    (threads.set index (call, moved)).map Prod.fst = threads.map Prod.fst := by
  refine List.ext_getElem (by simp) fun position _ _ => ?_
  simp only [List.getElem_map, List.getElem_set]
  split
  · rename_i here
    subst here
    rw [located]
  · rfl

/-- What a race of definitions keeps while their names are distinct: each thread keeps
its call, no scan has found a match, and no registered entry bears the name of a thread
that has not appended. -/
structure Unseen (definitions : List Definition) (race : Threads BaseDevice Definition DefinitionPhase) :
    Prop where
  calls : race.threads.map Prod.fst = definitions
  notFound : ∀ thread ∈ race.threads, thread.2.found = false
  fresh : ∀ property ∈ race.shared.pAll, property.registered = true →
    ∀ thread ∈ race.threads, thread.2.appended = false → property.name ≠ thread.1.name

section Unseen

variable {host} {definitions : List Definition} (distinct : (definitions.map Definition.name).Nodup)
  (fits : ∀ definition ∈ definitions, definition.NameFits host)

include distinct fits in
theorem step_unseen {race : Threads BaseDevice Definition DefinitionPhase} (unseen : race.Unseen definitions)
    (index : Nat) : (race.step (Definition.step host) index).Unseen definitions := by
  obtain ⟨calls, notFound, fresh⟩ := unseen
  rcases step_cases (Definition.step host) race index with
    same | ⟨definition, phase, bound, located, moved⟩
  · rw [same]
    exact ⟨calls, notFound, fresh⟩
  have member : (definition, phase) ∈ race.threads := located ▸ List.getElem_mem bound
  have kept := @map_fst_set _ _ _ _ bound _ _ (definition.step host race.shared phase).2 located
  rw [moved]
  refine ⟨kept.trans calls, fun thread held => ?_, fun property held registered thread mover waiting => ?_⟩
  · rcases List.mem_or_eq_of_mem_set held with old | rfl
    · exact notFound thread old
    cases phase with
    | finished => cases definition <;> exact notFound _ member
    | _ =>
        cases scanned : (definition.step host race.shared _).2.found
        · rfl
        rcases Definition.step_found host race.shared definition _ scanned with
          earlier | ⟨property, inside, registered, named⟩
        · exact absurd earlier (by simp [notFound _ member])
        · exact absurd named (fresh property inside registered _ member rfl)
  rcases Definition.step_pAll host race.shared definition phase with
    ⟨same, still⟩ | ⟨added, grown, now, before⟩
  · rw [same] at held
    rcases List.mem_or_eq_of_mem_set mover with old | rfl
    · exact fresh property held registered thread old waiting
    · exact fresh property held registered (definition, phase) member (still.symm.trans waiting)
  · rw [grown] at held
    rcases List.mem_or_eq_of_mem_set mover with old | rfl
    · rcases List.mem_append.mp held with earlier | appended
      · exact fresh property earlier registered thread old waiting
      · rw [List.mem_singleton.mp appended,
          Definition.step_appends_own_name host race.shared definition phase (fits _ (calls ▸ List.mem_map_of_mem
            Prod.fst member)) grown]
        intro named
        have names : ((race.threads.set index (definition, (definition.step host race.shared phase).2)).map
            (Definition.name ∘ Prod.fst)).Nodup := by
          rw [← List.map_map, kept, calls]
          exact distinct
        have itself := List.inj_on_of_nodup_map names (List.mem_set _ _ bound _) mover named
        rw [← itself, now] at waiting
        cases waiting
    · exact absurd waiting (by simp [now])

theorem start_unseen (device : BaseDevice)
    (absent : ∀ property ∈ device.pAll, property.registered = true → ∀ definition ∈ definitions,
      property.name ≠ definition.name) :
    (start device definitions .start : Threads _ _ _).Unseen definitions := by
  refine ⟨by simp [start, Function.comp_def], fun thread held => ?_, fun property held registered thread member _ =>
    absent property held registered _ (mem_start.mp member).1⟩
  rw [(mem_start.mp held).2]
  rfl

end Unseen

end Threads

/-- Definitions of distinct, fitting, fresh names never see each other: over every
schedule no scan finds a match, and once all threads have returned `pAll` has grown by
one entry for each call past the checks that kept a widget. -/
theorem distinct_definitions_all_append (host : Host) (device : BaseDevice) (definitions : List Definition)
    (schedule : List Nat) (distinct : (definitions.map Definition.name).Nodup)
    (fits : ∀ definition ∈ definitions, definition.NameFits host)
    (absent : ∀ property ∈ device.pAll, property.registered = true → ∀ definition ∈ definitions,
      property.name ≠ definition.name) :
    let race := (Threads.start device definitions .start).run (Definition.step host) schedule
    (∀ thread ∈ race.threads, thread.2.found = false ∧
      (thread.2.returned = true → thread.2.appended = (thread.1.checked && thread.1.keepsWidget host))) ∧
    ((∀ thread ∈ race.threads, thread.2.returned = true) →
      race.shared.pAll.length =
        device.pAll.length + (definitions.filter fun definition => definition.checked && definition.keepsWidget host).length) := by
  intro race
  have unseen : race.Unseen definitions :=
    Threads.run_preserves _ (Threads.Unseen definitions) (fun _ unseen => Threads.step_unseen distinct fits unseen)
      schedule (Threads.start_unseen device absent)
  obtain ⟨length, consistent⟩ := Threads.run_preserves _ (Threads.Counted host _)
    (fun _ => Threads.step_counted host) schedule (Threads.start_counted host device definitions)
  have settled : ∀ thread ∈ race.threads, thread.2.returned = true →
      thread.2.appended = (thread.1.checked && thread.1.keepsWidget host) := by
    intro thread member returned
    have unfound := unseen.notFound thread member
    have counted := consistent thread member
    obtain ⟨definition, phase⟩ := thread
    cases phase with
    | finished found code appended =>
        simp only [DefinitionPhase.found] at unfound
        simpa [Definition.Consistent, unfound] using counted
    | _ => cases returned
  refine ⟨fun thread member => ⟨unseen.notFound thread member, settled thread member⟩, fun returned => ?_⟩
  have counted : race.appendedCount =
      (definitions.filter fun definition => definition.checked && definition.keepsWidget host).length := by
    rw [Threads.appendedCount, List.countP_congr fun thread member => by
        rw [settled thread member (returned thread member)],
      ← List.countP_eq_length_filter, ← unseen.calls, List.countP_map]
    rfl
  exact length.trans (congrArg _ counted)

def fooAndBar : List Definition :=
  [.buildProp (numberDefinition "D" "FOO") false, .buildProp (numberDefinition "D" "BAR") false]

example : ((Threads.start BaseDevice.empty fooAndBar .start).run (Definition.step Host.cLocale)
      [0, 1, 0, 1]).shared.pAll.map Property.name = ["FOO", "BAR"] := by
  set_option maxRecDepth 20000 in decide

/-- `FOO` and `BAR` defined by two threads whose scans both run before either appends:
both append. -/
theorem two_names_both_append :
    (fooAndBar.map Definition.name).Nodup ∧
    (∀ definition ∈ fooAndBar, definition.NameFits Host.cLocale) ∧
    (∀ property ∈ BaseDevice.empty.pAll, property.registered = true →
      ∀ definition ∈ fooAndBar, property.name ≠ definition.name) ∧
    let race := (Threads.start BaseDevice.empty fooAndBar .start).run (Definition.step Host.cLocale) [0, 1, 0, 1]
    (∀ thread ∈ race.threads, thread.2.found = false ∧
      (thread.2.returned = true → thread.2.appended = (thread.1.checked && thread.1.keepsWidget Host.cLocale))) ∧
    ((∀ thread ∈ race.threads, thread.2.returned = true) →
      race.shared.pAll.length = BaseDevice.empty.pAll.length +
        (fooAndBar.filter fun definition => definition.checked && definition.keepsWidget Host.cLocale).length) :=
  ⟨by decide, by decide, by simp [BaseDevice.empty],
    distinct_definitions_all_append Host.cLocale BaseDevice.empty _ [0, 1, 0, 1] (by decide) (by decide)
      (by simp [BaseDevice.empty])⟩

end Indi
