import Indi.Base.Property

/-!
# Wire elements and value conversions

The element tree that `lilxml` hands to `buildProp` and `setValue`, the attribute and
child accessors of `LilXmlElement`, and the conversions of `LilXmlValue` they call.
The conversions and the library calls live outside the sources; `Host` collects the
ones taken as parameters, and the rest are modelled from the spec.

Text is C's: a model `String` holds the bytes of a `char` string, one `Char` per byte,
so `length` is `strlen` and `std::string::size()`. Wire text in UTF-8 is written by its
bytes, `utf8Bytes`, which leaves ASCII as it is.
-/

set_option autoImplicit false

namespace Indi

/-!
## The host
-/

/-! What `basedevice.cpp` calls but the sources do not define, taken as parameters:
the numeric locale, the value each enumeration conversion yields for a token it
rejects, `zlib`'s `uncompress`, the shared-buffer table and the clock. -/

/-- The sizes of the `char` arrays that `indiapi.h` (absent from the sources) gives a
vector's or widget's name, label, device, group, number format and BLOB format, and
`MAXRBUF`, the size of a message buffer. -/
structure Capacities where
  name : Nat
  label : Nat
  device : Nat
  group : Nat
  format : Nat
  blobFormat : Nat
  message : Nat

/-- The collaborators of `basedevice.cpp` outside the sources. -/
structure Host where
  /-- The `char` arrays that the setters copy into. -/
  capacities : Capacities
  /-- The decimal point of the host's `LC_NUMERIC` locale. -/
  decimalPoint : Char
  /-- What `toIPState` yields for a token that is not a state. -/
  stateOnError : IPState
  /-- What `toIPerm` yields for a token that is not a permission. -/
  permOnError : IPerm
  /-- What `toISState` yields for a token that is not a switch state. -/
  switchOnError : ISState
  /-- `uncompress(dest, &destLen, source, sourceLen)` with `destLen` the capacity:
  the inflated bytes, or the non-`Z_OK` code. -/
  uncompress : List UInt8 → Nat → Except Int (List UInt8)
  /-- The side-channel buffer that `attachBlobByUid` maps for an id, if any. -/
  sharedBlob : String → Option (List UInt8)
  /-- What `timestamp()` prints. -/
  timestamp : String

/-!
## Elements
-/

/-! `lilxml` keeps attributes in document order and `findXMLAtt` returns the first
with the name. Only the root of a message and its direct children are read. -/

/-- An XML element without its children: tag, attributes, own character data. -/
structure Node where
  tag : String
  attributes : List (String × String)
  context : String
  deriving DecidableEq, Repr

/-- A message element: a node and its direct children. -/
structure Element extends Node where
  children : List Node
  deriving DecidableEq, Repr

namespace Node

/-- `LilXmlElement::getAttribute`: the first attribute of the name, or an invalid
value (`none`). -/
def getAttribute (node : Node) (name : String) : Option String :=
  node.attributes.lookup name

end Node

namespace Element

/-- `LilXmlElement::getElements`: every direct child. -/
def getElements (element : Element) : List Node :=
  element.children

/-- `LilXmlElement::getElementsByTagName`: the direct children with the tag. -/
def getElementsByTagName (element : Element) (tag : String) : List Node :=
  element.children.filter (·.tag == tag)

end Element

/-- `LilXmlValue::toString`, also the `const char *` conversion: an absent attribute
reads as the empty string. -/
def valueText (value : Option String) : String :=
  value.getD ""

/-- `indi_strlcpy` into a `char` array of `size`, and `snprintf` into a buffer of
`size`: at most `size - 1` bytes. -/
def fit (size : Nat) (text : String) : String :=
  ⟨text.data.take (size - 1)⟩

theorem fit_of_lt {size : Nat} {text : String} (fits : text.length < size) : fit size text = text := by
  unfold fit
  rw [List.take_of_length_le (by simp only [String.length] at fits; omega)]

/-- The UTF-8 bytes of Unicode text, one `Char` per byte. -/
def utf8Bytes (text : String) : String :=
  ⟨text.data.flatMap fun c => (String.utf8EncodeChar c).map fun byte => Char.ofNat byte.toNat⟩

theorem length_utf8Bytes (text : String) : (utf8Bytes text).length = text.utf8ByteSize := by
  obtain ⟨chars⟩ := text
  simp only [utf8Bytes, String.length, String.utf8ByteSize]
  induction chars with
  | nil => rfl
  | cons c chars ih =>
      simp only [List.flatMap_cons, List.length_append, List.length_map, String.length_utf8EncodeChar, ih,
        String.utf8ByteSize.go, Nat.add_comm]

example : utf8Bytes "FOO" = "FOO" := by decide

/-- Forty `é` are eighty bytes: the array keeps sixty-three, the last the first byte of
an `é`; and `a`, thirty-one `é` and `b` are cut to `a` and the thirty-one `é`. -/
example : (fit 64 (utf8Bytes ⟨List.replicate 40 'é'⟩)).length = 63 ∧
    fit 64 (utf8Bytes ⟨'a' :: List.replicate 31 'é' ++ ['b']⟩) = utf8Bytes ⟨'a' :: List.replicate 31 'é'⟩ := by
  decide

/-!
## Numbers
-/

/-! `strtod` reads the longest prefix of the text that is a decimal number, with the
decimal point of the current `LC_NUMERIC` locale; `'.'` is the C locale's. -/

def spanDigits (text : List Char) : List Char × List Char :=
  (text.takeWhile Char.isDigit, text.dropWhile Char.isDigit)

def digitsValue (digits : List Char) : Nat :=
  digits.foldl (fun value digit => 10 * value + (digit.toNat - '0'.toNat)) 0

def readSign : List Char → Bool × List Char
  | '-' :: rest => (true, rest)
  | '+' :: rest => (false, rest)
  | text => (false, text)

/-- An optional exponent `e[sign]digits`; no digits means no exponent. -/
def readExponent : List Char → Int
  | c :: rest =>
      if c = 'e' ∨ c = 'E' then
        let (negative, digits) := readSign rest
        let exponent := digitsValue (spanDigits digits).1
        if negative then -exponent else exponent
      else 0
  | [] => 0

/-- `mantissa * 10 ^ exponent`. -/
def scaled (mantissa exponent : Int) : ℚ :=
  if 0 ≤ exponent then mkRat (mantissa * (Nat.pow 10 exponent.toNat : Int)) 1
  else mkRat mantissa (Nat.pow 10 (-exponent).toNat)

/-- Modelled from the spec: `strtod` under a locale whose decimal point is `point`
(spec §4.1 and §5's locale toggle): the decimal number at the start of the text
after blanks, `none` when there is none. -/
def readDecimal (point : Char) (text : List Char) : Option ℚ :=
  let (negative, unsigned) := readSign (text.dropWhile Char.isWhitespace)
  let (whole, afterWhole) := spanDigits unsigned
  let (fraction, afterFraction) :=
    match afterWhole with
    | c :: rest => if c = point then spanDigits rest else ([], afterWhole)
    | [] => ([], [])
  if whole.isEmpty ∧ fraction.isEmpty then none
  else
    let mantissa : Int := digitsValue (whole ++ fraction)
    some (scaled (if negative then -mantissa else mantissa)
      (readExponent afterFraction - fraction.length))

/-- `LilXmlValue::toDouble` under the locale of `point`: `0` when nothing is read. -/
def toDouble (point : Char) (value : Option String) : ℚ :=
  ((value.map String.toList).bind (readDecimal point)).getD 0

/-- Whether `LilXmlValue::toDouble(&ok)` reports a number. -/
def toDoubleOk (point : Char) (value : Option String) : Bool :=
  ((value.map String.toList).bind (readDecimal point)).isSome

/-- Modelled from the spec: `f_scansexa` behind `LilXmlValue::toDoubleSexa`, spec §4.1:
up to three decimal fields `d m s`, separated by non-digits, meaning
`d + m / 60 + s / 3600`, read with `'.'` and a leading `-` applied once. -/
def toDoubleSexa (value : String) : ℚ :=
  let (negative, unsigned) := readSign (value.toList.dropWhile Char.isWhitespace)
  let field (text : List Char) : ℚ := (readDecimal '.' text).getD 0
  let next (text : List Char) : List Char :=
    (text.dropWhile (fun c => c.isDigit ∨ c = '.')).dropWhile (fun c => ¬ c.isDigit)
  let minutes := next unsigned
  let seconds := next minutes
  let magnitude := field unsigned + field minutes / 60 + field seconds / 3600
  if negative then -magnitude else magnitude

/-- Modelled from the spec: `LilXmlValue::toInt`, the decimal integer at the start of
the text (a BLOB's `size`), `0` when there is none. -/
def toInt (value : Option String) : Int :=
  match value with
  | none => 0
  | some text =>
      let (negative, unsigned) := readSign (text.toList.dropWhile Char.isWhitespace)
      let magnitude : Int := digitsValue (spanDigits unsigned).1
      if negative then -magnitude else magnitude

/-- A `size_t` argument computed from an `int`. -/
def sizeT (value : Int) : Nat :=
  (value % (Nat.pow 2 64 : Int)).toNat

/-- A host in the C locale with `indiapi.h`'s 64-byte arrays and `MAXRBUF` of `2048`,
the enumerations' zero values for a rejected token, no shared buffers, and a `zlib`
that fails with `Z_DATA_ERROR`. -/
def Host.cLocale : Host where
  capacities := ⟨64, 64, 64, 64, 64, 64, 2048⟩
  decimalPoint := '.'
  stateOnError := .idle
  permOnError := .ro
  switchOnError := .off
  uncompress := fun _ _ => .error (-3)
  sharedBlob := fun _ => none
  timestamp := "2026-11-08T00:00:00"

/-!
## Enumerations
-/

/-! The closed enumerations of spec §4.1 (`crackIPState`, `crackIPerm`,
`crackISState`); a rejected token yields the host's value and `ok = false`. -/

/-- `crackIPState`. -/
def crackIPState : String → Option IPState
  | "Idle" => some .idle
  | "Ok" => some .ok
  | "Busy" => some .busy
  | "Alert" => some .alert
  | _ => none

/-- `crackIPerm`. -/
def crackIPerm : String → Option IPerm
  | "ro" => some .ro
  | "wo" => some .wo
  | "rw" => some .rw
  | _ => none

/-- `crackISState`. -/
def crackISState : String → Option ISState
  | "On" => some .on
  | "Off" => some .off
  | _ => none

/-- Modelled from the spec: `LilXmlValue::endsWith`, spec §4.5's "`format` ends in
`.z`": whether the text ends with `suffix`. -/
def endsWith (value suffix : String) : Bool :=
  suffix.toList.isSuffixOf value.toList

/-- `LilXmlValue::toIPState`. -/
def toIPState (host : Host) (value : Option String) : IPState :=
  ((value.bind crackIPState)).getD host.stateOnError

/-- `LilXmlValue::toIPerm`. -/
def toIPerm (host : Host) (value : Option String) : IPerm :=
  ((value.bind crackIPerm)).getD host.permOnError

/-- `LilXmlValue::toISState`. -/
def toISState (host : Host) (value : Option String) : ISState :=
  ((value.bind crackISState)).getD host.switchOnError

/-!
## Base64
-/

/-- The value of a base64 character; padding and strays read as `0`. -/
def sextet (c : Char) : Nat :=
  if 'A' ≤ c ∧ c ≤ 'Z' then c.toNat - 'A'.toNat
  else if 'a' ≤ c ∧ c ≤ 'z' then c.toNat - 'a'.toNat + 26
  else if '0' ≤ c ∧ c ≤ '9' then c.toNat - '0'.toNat + 52
  else if c = '+' then 62
  else if c = '/' then 63
  else 0

/-- The bytes of one group of four characters; `=` padding drops the last ones. -/
def quantum (a b c d : Char) : List UInt8 :=
  let bits := sextet a * Nat.pow 2 18 + sextet b * Nat.pow 2 12 + sextet c * Nat.pow 2 6 + sextet d
  let bytes := [bits / Nat.pow 2 16 % 256, bits / Nat.pow 2 8 % 256, bits % 256].map UInt8.ofNat
  if c = '=' then bytes.take 1 else if d = '=' then bytes.take 2 else bytes

/-- Modelled from the spec: `from64tobits_fast(out, in, inlen)` of `base64.c`, spec
§4.5's standard base64: the bytes of the first `inlen` characters of `in`, three for
each group of four. -/
def from64tobitsFast (input : List Char) (inlen : Nat) : List UInt8 :=
  decode (input.take inlen)
where
  decode : List Char → List UInt8
    | a :: b :: c :: d :: rest => quantum a b c d ++ decode rest
    | _ => []

theorem length_quantum_le (a b c d : Char) : (quantum a b c d).length ≤ 3 := by
  unfold quantum
  split_ifs <;> simp

theorem length_decode_le (input : List Char) :
    (from64tobitsFast.decode input).length ≤ 3 * (input.length / 4) := by
  induction input using from64tobitsFast.decode.induct with
  | case1 a b c d rest ih =>
      have three := length_quantum_le a b c d
      simp only [from64tobitsFast.decode, List.length_append, List.length_cons]
      omega
  | case2 input short =>
      have : from64tobitsFast.decode input = [] := by
        match input, short with
        | [], _ | [_], _ | [_, _], _ | [_, _, _], _ => rfl
        | _ :: _ :: _ :: _ :: _, short => exact absurd rfl (short _ _ _ _ _)
      simp [this]

end Indi
