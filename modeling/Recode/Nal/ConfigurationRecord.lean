import Recode.Nal.LengthPrefixed

/-!
# Configuration records

A container that stores length-prefixed NAL units describes the stream once, in
a configuration record: how many bytes a length takes, and the parameter sets a
decoder needs before the first picture. H.264 and H.265 each have a record
layout of their own. Both hold lists of units behind 16-bit lengths; they differ
in where the length size stands and in how the lists are grouped.

Reading a record either takes it whole or refuses it. A record cut short says
nothing reliable about the stream, while bytes behind the last list belong to
later revisions of the layout and are ignored.

## Main definitions

* `ConfigurationRecord`: A length size and the parameter sets.
* `takeUnit?`, `takeUnits?`: Units behind 16-bit lengths.
* `ConfigurationRecord.ofAvcc?`: Reads the H.264 layout.
* `ConfigurationRecord.ofHvcc?`: Reads the H.265 layout.
-/

namespace Recode

namespace Nal

/-- What a configuration record says about a stream. -/
structure ConfigurationRecord where
  /-- How many bytes a unit's length takes. -/
  lengthSize : Nat
  /-- The parameter sets, in the order of the record. -/
  parameterSets : List Bytes
deriving DecidableEq, Repr

/-- The unit at the front of `data`, behind its 16-bit length, and what
    follows. -/
def takeUnit? : Bytes → Option (Bytes × Bytes)
  | high :: low :: rest =>
    let n := bigEndian [high, low]
    if n ≤ rest.length then some (rest.take n, rest.drop n) else none
  | _ => none

/-- The first `count` units of `data`, each behind its 16-bit length, and what
    follows. -/
def takeUnits? : Nat → Bytes → Option (List Bytes × Bytes)
  | 0, data => some ([], data)
  | count + 1, data => do
    let (unit, data) ← takeUnit? data
    let (units, data) ← takeUnits? count data
    return (unit :: units, data)

/-- The units of `count` arrays, each array a type byte and a 16-bit number of
    units followed by the units, and what follows. -/
def takeArrays? : Nat → Bytes → Option (List Bytes × Bytes)
  | 0, data => some ([], data)
  | count + 1, _ :: high :: low :: data => do
    let (units, data) ← takeUnits? (bigEndian [high, low]) data
    let (more, data) ← takeArrays? count data
    return (units ++ more, data)
  | _ + 1, _ => none

namespace ConfigurationRecord

/-- The length size that the two low bits of a byte encode, from one to four. -/
def lengthSizeOf (b : UInt8) : Nat := (b &&& 0x03).toNat + 1

/-- Reads the H.264 layout: version one, the length size in the fifth byte, then
    the sequence parameter sets, counted by five bits, and the picture parameter
    sets, counted by a byte. -/
def ofAvcc? (record : Bytes) : Option ConfigurationRecord := do
  guard (record.head? = some 1)
  let lengthByte ← record[4]?
  let sequenceCount ← record[5]?
  let (sequenceSets, rest) ← takeUnits? (sequenceCount &&& 0x1f).toNat (record.drop 6)
  let pictureCount ← rest.head?
  let (pictureSets, _) ← takeUnits? pictureCount.toNat rest.tail
  return ⟨lengthSizeOf lengthByte, sequenceSets ++ pictureSets⟩

/-- Reads the H.265 layout: version one, a header of 23 bytes that ends in the
    length size and the number of arrays, then the arrays. -/
def ofHvcc? (record : Bytes) : Option ConfigurationRecord := do
  guard (record.head? = some 1)
  let lengthByte ← record[21]?
  let arrayCount ← record[22]?
  let (sets, _) ← takeArrays? arrayCount.toNat (record.drop 23)
  return ⟨lengthSizeOf lengthByte, sets⟩

end ConfigurationRecord

end Nal

end Recode
