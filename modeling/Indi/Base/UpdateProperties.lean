import Indi.Base.RegistryProperties

/-!
# Update properties

What `setValue` makes of numbers and of BLOB payloads. Its numbers are read under
`AutoCNumeric`, while `buildProp` reads a definition's numbers with the host's decimal
point. The inline BLOB path decodes the vector's own text, so the payload a child
carries is never read, only its size.
-/

set_option autoImplicit false

namespace Indi

open BaseDevice

/-!
## Numbers and the host locale
-/

def numberUpdate : Element where
  tag := "setNumberVector"
  attributes := [("device", "D"), ("name", "FOO"), ("state", "Ok")]
  context := ""
  children := [{ tag := "oneNumber", attributes := [("name", "x"), ("min", "0.5")], context := "1" }]

/-- Under a host whose decimal point is a comma, the definition stores the minimum `0`
for the text `0.5`, and the update with the same text stores `1/2`. -/
theorem number_minimum_read_in_two_locales :
    (BaseDevice.empty.run { Host.cLocale with decimalPoint := ',' }
        [.buildProp (numberDefinition "D" "FOO") false]).1.pAll.map
        (fun property => match property.widgets with
          | .number widgets => widgets.map (·.min)
          | _ => []) = [[0]] ∧
    (BaseDevice.empty.run { Host.cLocale with decimalPoint := ',' }
        [.buildProp (numberDefinition "D" "FOO") false, .setValue numberUpdate []]).1.pAll.map
        (fun property => match property.widgets with
          | .number widgets => widgets.map (·.min)
          | _ => []) = [[mkRat 1 2]] := by
  set_option maxRecDepth 20000 in decide

/-!
## BLOB payloads
-/

/-! The inline path sizes its buffer and its read by the child's text and decodes the
vector's; the `.z` path sets the size to the inflated length and leaves `blobLen` at
the compressed one. -/

def blobDefinition : Element where
  tag := "defBLOBVector"
  attributes := [("device", "D"), ("name", "IMG"), ("perm", "ro"), ("state", "Idle")]
  context := ""
  children := [{ tag := "defBLOB", attributes := [("name", "w"), ("format", ".fits")], context := "" }]

def blobUpdate (vectorText : String) (attributes : List (String × String)) (payload : String) :
    Element where
  tag := "setBLOBVector"
  attributes := [("device", "D"), ("name", "IMG"), ("state", "Ok")]
  context := vectorText
  children := [{ tag := "oneBLOB", attributes := ("name", "w") :: attributes, context := payload }]

theorem inflate_blobLen (host : Host) (deviceName propertyName format : String) (succeeds : Bool)
    (widget inflated : BlobWidget) (events : List BlobEvent)
    (done : inflate host deviceName propertyName format succeeds widget = .done inflated events) :
    inflated.blobLen = widget.blobLen := by
  unfold inflate at done
  dsimp only at done
  repeat' split at done
  all_goals cases done <;> rfl

/-- A child carrying the base64 text of `ABC` under a vector whose own text is `AAAA`:
the widget receives the bytes `AAAA` decodes to, three zeros. -/
theorem inline_blob_decodes_vector_text :
    from64tobitsFast "QUJD".toList 4 = [65, 66, 67] ∧
      (BaseDevice.empty.run Host.cLocale [.buildProp blobDefinition false,
        .setValue (blobUpdate "AAAA" [("size", "3"), ("format", ".fits")] "QUJD") []]).1.pAll.map
        Property.widgets =
      [.blob [⟨"w", "", ".fits", some ⟨.heap, [0, 0, 0]⟩, 3, 3⟩]] := by
  set_option maxRecDepth 20000 in decide

/-- A direct attachment, then an inline payload: the inline path hands the side-channel
buffer to `realloc`. -/
theorem inline_after_direct_attachment_reallocs_shared :
    Event.memory (.realloc (some .shared)) ∈
      (BaseDevice.empty.run
        { Host.cLocale with sharedBlob := fun id => if id = "buf" then some [65, 66, 67] else none }
        [.buildProp blobDefinition false,
          .setValue (blobUpdate "" [("size", "3"), ("format", ".fits"), ("attached-data-id", "buf"),
            ("attachment-direct", "true")] "") [],
          .setValue (blobUpdate "QUJD" [("size", "3"), ("format", ".fits")] "QUJD") []]).2 := by
  set_option maxRecDepth 20000 in decide

end Indi
