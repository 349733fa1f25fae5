import Indi.Base.SetValue

/-!
# Updates as patches

Each widget write of `setValue` sets some fields to values taken from the child and
keeps the rest. Such a write is a patch. A patch followed by another is again a patch,
with the later write winning, and a patch applied twice is the same as applied once. A
BLOB's buffer is patched byte by byte: `realloc` keeps the bytes it finds up to the new
size, and the decoder overwrites a prefix. The idempotence of `setValue` rests on this
algebra.
-/

set_option autoImplicit false

namespace Indi

/-!
## Patches
-/

/-- Writes of some fields of an `α`: a later write wins where both set a field, so a
write performed twice is performed once, and no write changes the lookup name. -/
structure Overwrite (α π : Type) where
  apply : π → α → α
  andThen : π → π → π
  keep : π
  nameOf : α → String
  apply_andThen : ∀ first second item, apply (andThen first second) item = apply second (apply first item)
  apply_apply : ∀ patch item, apply patch (apply patch item) = apply patch item
  apply_keep : ∀ item, apply keep item = item
  nameOf_apply : ∀ patch item, nameOf (apply patch item) = nameOf item

namespace Overwrite

variable {α π : Type} (O : Overwrite α π)

/-- One patch per item, in order; the items past the patches are kept. -/
def applyAll : List π → List α → List α
  | patch :: patches, item :: items => O.apply patch item :: applyAll patches items
  | [], items => items
  | _ :: _, [] => []

/-- The patches of each position, the first list's before the second's. -/
def andThenAll : List π → List π → List π
  | first :: firsts, second :: seconds => O.andThen first second :: andThenAll firsts seconds
  | [], seconds => seconds
  | firsts, [] => firsts

/-- `patch` at the first position whose name is `name`, given the names in order. -/
def patchAt (name : String) (patch : π) : List String → List π
  | [] => []
  | head :: names => if head == name then [patch] else O.keep :: patchAt name patch names

@[simp] theorem applyAll_nil (items : List α) : O.applyAll [] items = items := by
  cases items <;> rfl

theorem applyAll_andThenAll (firsts seconds : List π) (items : List α) :
    O.applyAll (O.andThenAll firsts seconds) items = O.applyAll seconds (O.applyAll firsts items) := by
  induction firsts generalizing seconds items with
  | nil => cases seconds <;> simp [andThenAll]
  | cons first firsts ih =>
      cases seconds with
      | nil => cases items <;> simp [andThenAll]
      | cons second seconds =>
          cases items with
          | nil => rfl
          | cons item items => simp only [andThenAll, applyAll, O.apply_andThen, ih]

theorem applyAll_applyAll (patches : List π) (items : List α) :
    O.applyAll patches (O.applyAll patches items) = O.applyAll patches items := by
  induction patches generalizing items with
  | nil => simp
  | cons patch patches ih =>
      cases items with
      | nil => rfl
      | cons item items => simp only [applyAll, O.apply_apply, ih]

@[simp] theorem map_nameOf_applyAll (patches : List π) (items : List α) :
    (O.applyAll patches items).map O.nameOf = items.map O.nameOf := by
  induction patches generalizing items with
  | nil => simp
  | cons patch patches ih =>
      cases items with
      | nil => rfl
      | cons item items => simp only [applyAll, List.map_cons, O.nameOf_apply, ih]

theorem updateFirst_eq_applyAll (name : String) (patch : π) (items : List α) :
    updateFirst (O.nameOf · == name) (O.apply patch) items =
      O.applyAll (O.patchAt name patch (items.map O.nameOf)) items := by
  induction items with
  | nil => rfl
  | cons item items ih =>
      by_cases named : O.nameOf item == name
      · simp [updateFirst_cons, patchAt, named, applyAll]
      · simp only [updateFirst_cons, named, Bool.false_eq_true, ↓reduceIte, List.map_cons, patchAt,
          applyAll, O.apply_keep, ih]

/-!
### `for_property` passes
-/

/-- The patches of a `for_property` pass over widgets of `names`, children in order. -/
def passPatches (patchOf : Node → π) (names : List String) : List Node → List π
  | [] => []
  | element :: elements =>
      O.andThenAll (O.patchAt (valueText (element.getAttribute "name")) (patchOf element) names)
        (passPatches patchOf names elements)

section Pass

variable (update : Node → α → α) (patchOf : Node → π)
  (writes : ∀ element item, update element item = O.apply (patchOf element) item)

include writes

theorem forProperty_eq_applyAll (elements : List Node) (widgets : List α) :
    forProperty O.nameOf update elements widgets =
      O.applyAll (O.passPatches patchOf (widgets.map O.nameOf) elements) widgets := by
  induction elements generalizing widgets with
  | nil => simp [forProperty, passPatches]
  | cons element elements ih =>
      have step : forProperty O.nameOf update (element :: elements) widgets =
          forProperty O.nameOf update elements
            (updateFirst (O.nameOf · == valueText (element.getAttribute "name")) (O.apply (patchOf element))
              widgets) := by
        simp only [forProperty, List.foldl_cons]
        congr
        funext item
        exact writes element item
      rw [step, ih, O.updateFirst_eq_applyAll, map_nameOf_applyAll, passPatches, applyAll_andThenAll]

theorem forProperty_forProperty (elements : List Node) (widgets : List α) :
    forProperty O.nameOf update elements (forProperty O.nameOf update elements widgets) =
      forProperty O.nameOf update elements widgets := by
  rw [O.forProperty_eq_applyAll update patchOf writes elements (forProperty _ _ _ _),
    O.forProperty_eq_applyAll update patchOf writes elements widgets, map_nameOf_applyAll, applyAll_applyAll]

end Pass

end Overwrite

/-!
## Field writes
-/

/-! A write of one field is an `Option`: a value to write, or `none` to keep. -/

theorem getD_or {β : Type} (first second : Option β) (value : β) :
    (second.or first).getD value = second.getD (first.getD value) := by
  cases second <;> rfl

theorem getD_getD {β : Type} (write : Option β) (value : β) :
    write.getD (write.getD value) = write.getD value := by
  cases write <;> rfl

/-- Writes of the one field of an `α` that `set` writes. -/
def Overwrite.ofField {α β : Type} (nameOf : α → String) (set : α → β → α)
    (set_set : ∀ item first second, set (set item first) second = set item second)
    (nameOf_set : ∀ item value, nameOf (set item value) = nameOf item) : Overwrite α (Option β) where
  apply write item := write.elim item (set item)
  andThen first second := second.or first
  keep := none
  nameOf := nameOf
  apply_andThen first second item := by cases first <;> cases second <;> simp [set_set]
  apply_apply write item := by cases write <;> simp [set_set]
  apply_keep _ := rfl
  nameOf_apply write item := by cases write <;> simp [nameOf_set]

def switchOverwrite : Overwrite SwitchWidget (Option ISState) :=
  .ofField (·.name) (fun widget state => { widget with state := state }) (fun _ _ _ => rfl) (fun _ _ => rfl)

def textOverwrite : Overwrite TextWidget (Option String) :=
  .ofField (·.name) (fun widget text => { widget with text := text }) (fun _ _ _ => rfl) (fun _ _ => rfl)

def lightOverwrite : Overwrite LightWidget (Option IPState) :=
  .ofField (·.name) (fun widget state => { widget with state := state }) (fun _ _ _ => rfl) (fun _ _ => rfl)

/-- Writes of a Number's value, minimum and maximum. -/
structure NumberPatch where
  value : Option ℚ
  min : Option ℚ
  max : Option ℚ

def numberOverwrite : Overwrite NumberWidget NumberPatch where
  apply patch widget := { widget with
    value := patch.value.getD widget.value, min := patch.min.getD widget.min, max := patch.max.getD widget.max }
  andThen first second := ⟨second.value.or first.value, second.min.or first.min, second.max.or first.max⟩
  keep := ⟨none, none, none⟩
  nameOf := (·.name)
  apply_andThen _ _ _ := by simp only [getD_or]
  apply_apply _ _ := by simp only [getD_getD]
  apply_keep _ := rfl
  nameOf_apply _ _ := rfl

/-- What a `oneNumber` child writes: the value, and `min` and `max` when present. -/
def numberPatch (element : Node) : NumberPatch :=
  ⟨some (toDouble '.' (some element.context)), (element.getAttribute "min").map (toDouble '.' ∘ some),
    (element.getAttribute "max").map (toDouble '.' ∘ some)⟩

theorem oneNumber_eq_apply (element : Node) (item : NumberWidget) :
    oneNumber element item = numberOverwrite.apply (numberPatch element) item := by
  unfold oneNumber numberPatch
  cases element.getAttribute "min" <;> cases element.getAttribute "max" <;> rfl

theorem Widgets.forProperty_forProperty (host : Host) (elements : List Node) (widgets : Widgets) :
    (widgets.forProperty host elements).forProperty host elements = widgets.forProperty host elements := by
  cases widgets with
  | number widgets =>
      exact congrArg Widgets.number
        (numberOverwrite.forProperty_forProperty oneNumber numberPatch oneNumber_eq_apply elements widgets)
  | switch widgets =>
      exact congrArg Widgets.switch (switchOverwrite.forProperty_forProperty (oneSwitch host)
        (fun element => some (toISState host (some element.context))) (fun _ _ => rfl) elements widgets)
  | text widgets =>
      exact congrArg Widgets.text (textOverwrite.forProperty_forProperty oneText
        (fun element => some element.context) (fun _ _ => rfl) elements widgets)
  | light widgets =>
      exact congrArg Widgets.light (lightOverwrite.forProperty_forProperty (oneLight host)
        (fun element => some (toIPState host (some element.context))) (fun _ _ => rfl) elements widgets)
  | blob widgets => rfl

/-!
## BLOB buffers
-/

/-! A buffer write fills a fixed number of cells. A set cell holds its byte. An open
cell keeps the byte found at its position, or a zero past the end of the old buffer,
as `realloc` does. -/

/-- Fill `cells.length` bytes over `bytes`. -/
def fillCells : List (Option UInt8) → List UInt8 → List UInt8
  | [], _ => []
  | cell :: cells, bytes => cell.getD (bytes.headD 0) :: fillCells cells bytes.tail

/-- The cells of filling by `earlier` and then by `later`. -/
def thenCells (earlier : List (Option UInt8)) : List (Option UInt8) → List (Option UInt8)
  | [] => []
  | cell :: cells => cell.or (earlier.headD (some 0)) :: thenCells earlier.tail cells

theorem fillCells_fillCells (earlier later : List (Option UInt8)) (bytes : List UInt8) :
    fillCells later (fillCells earlier bytes) = fillCells (thenCells earlier later) bytes := by
  induction later generalizing earlier bytes with
  | nil => rfl
  | cons cell cells ih =>
      cases earlier with
      | nil =>
          have tail := ih [] bytes.tail
          simp only [fillCells] at tail
          cases cell <;> simp [fillCells, thenCells, tail]
      | cons first rest => cases cell <;> simp [fillCells, thenCells, ih]

theorem fillCells_idempotent (cells : List (Option UInt8)) (bytes : List UInt8) :
    fillCells cells (fillCells cells bytes) = fillCells cells bytes := by
  induction cells generalizing bytes with
  | nil => rfl
  | cons cell cells ih => simp only [fillCells, List.headD_cons, List.tail_cons, getD_getD, ih]

@[simp] theorem length_fillCells (cells : List (Option UInt8)) (bytes : List UInt8) :
    (fillCells cells bytes).length = cells.length := by
  induction cells generalizing bytes with
  | nil => rfl
  | cons cell cells ih => simp [fillCells, ih]

theorem fillCells_map_some_append (set : List UInt8) (rest : List (Option UInt8)) (bytes : List UInt8) :
    fillCells (set.map some ++ rest) bytes = set ++ fillCells rest (bytes.drop set.length) := by
  induction set generalizing bytes with
  | nil => rfl
  | cons byte set ih => simp [fillCells, ih, List.drop_tail]

theorem fillCells_map_some (set : List UInt8) (bytes : List UInt8) : fillCells (set.map some) bytes = set := by
  simpa [fillCells] using fillCells_map_some_append set [] bytes

theorem reallocBytes_eq_fillCells (old : Option Buffer) (size : Nat) :
    reallocBytes old size = fillCells (List.replicate size none) ((old.map (·.bytes)).getD []) := by
  unfold reallocBytes
  generalize (old.map (·.bytes)).getD [] = bytes
  induction size generalizing bytes with
  | zero => simp [fillCells]
  | succ size ih =>
      cases bytes with
      | nil => simpa [fillCells, List.replicate_succ] using ih []
      | cons byte bytes => simpa [fillCells, List.replicate_succ] using ih bytes

theorem decoded_fillCells (decoded : List UInt8) (capacity : Nat) (fits : decoded.length ≤ capacity)
    (bytes : List UInt8) :
    decoded ++ (fillCells (List.replicate capacity none) bytes).drop decoded.length =
      fillCells (decoded.map some ++ List.replicate (capacity - decoded.length) none) bytes := by
  induction decoded generalizing capacity bytes with
  | nil => simp
  | cons byte decoded ih =>
      obtain ⟨capacity, rfl⟩ : ∃ smaller, capacity = smaller + 1 :=
        ⟨capacity - 1, by simp only [List.length_cons] at fits; omega⟩
      have rest := ih capacity (by simp only [List.length_cons] at fits; omega) bytes.tail
      simpa [fillCells, List.replicate_succ] using rest

/-- What a write does to a BLOB's buffer: nothing, make it null, or fill a heap buffer. -/
inductive BufferWrite where
  | keep
  | null
  | fill (cells : List (Option UInt8))

namespace BufferWrite

def apply : BufferWrite → Option Buffer → Option Buffer
  | keep, blob => blob
  | null, _ => none
  | fill cells, blob => some ⟨.heap, fillCells cells ((blob.map (·.bytes)).getD [])⟩

def andThen : BufferWrite → BufferWrite → BufferWrite
  | first, keep => first
  | _, null => null
  | keep, fill cells => fill cells
  | null, fill cells => fill (thenCells [] cells)
  | fill earlier, fill cells => fill (thenCells earlier cells)

theorem apply_andThen (first second : BufferWrite) (blob : Option Buffer) :
    (first.andThen second).apply blob = second.apply (first.apply blob) := by
  cases second with
  | keep => cases first <;> rfl
  | null => cases first <;> rfl
  | fill cells =>
      cases first with
      | keep => rfl
      | null => simp [andThen, apply, ← fillCells_fillCells, fillCells]
      | fill earlier => simp [andThen, apply, ← fillCells_fillCells]

theorem apply_apply (write : BufferWrite) (blob : Option Buffer) :
    write.apply (write.apply blob) = write.apply blob := by
  cases write <;> simp [apply, fillCells_idempotent]

end BufferWrite

/-- Writes of a BLOB: its format, `bloblen`, `size` and buffer. -/
structure BlobPatch where
  format : Option String
  blobLen : Option Int
  size : Option Int
  buffer : BufferWrite

def blobOverwrite : Overwrite BlobWidget BlobPatch where
  apply patch widget := { widget with
    format := patch.format.getD widget.format, blob := patch.buffer.apply widget.blob,
    blobLen := patch.blobLen.getD widget.blobLen, size := patch.size.getD widget.size }
  andThen first second :=
    ⟨second.format.or first.format, second.blobLen.or first.blobLen, second.size.or first.size,
      first.buffer.andThen second.buffer⟩
  keep := ⟨none, none, none, .keep⟩
  nameOf := (·.name)
  apply_andThen _ _ _ := by simp only [getD_or, BufferWrite.apply_andThen]
  apply_apply _ _ := by simp only [getD_getD, BufferWrite.apply_apply]
  apply_keep _ := rfl
  nameOf_apply _ _ := rfl

end Indi
