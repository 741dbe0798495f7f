import Coffer.KeySource.ExtendedKey
import Coffer.Proofs.Curve.Encoding
import Coffer.Proofs.Text.Base58
/-!
# Keys are read back from their texts

Signing keys and extended keys are written with fields of a fixed width, so that each field is found
where it was put. For that the parent's name and the chain code have to have their widths, and the
scalar has to be a key.
-/

namespace Coffer

open Secp256k1 (groupOrder Point)

theorem Bytes.take_drop_field {before field : Bytes} {offset width : Nat} (later : Bytes)
    (starts : before.length = offset) (wide : field.length = width) :
    ((before ++ field ++ later).drop offset).take width = field := by
  rw [List.append_assoc, List.drop_left' starts, List.take_left' wide]

namespace SigningKey

theorem isScalar_iff (value : Nat) : isScalar value = true ↔ 0 < value ∧ value < groupOrder := by
  simp [isScalar]

theorem toNat_ofNat_of_isScalar {value : Nat} (valid : isScalar value = true) :
    Bytes.toNat (Bytes.ofNat 32 value) = value :=
  Bytes.toNat_ofNat (((isScalar_iff value).mp valid).2.trans (by decide))

theorem decode?_encode (key : SigningKey) (valid : isScalar key.scalar = true) :
    decode? key.encode = some key := by
  rcases key with ⟨isMain, isCompressed, scalar⟩
  have number : Bytes.toNat (Bytes.ofNat 32 scalar) = scalar := toNat_ofNat_of_isScalar valid
  have field : (Bytes.ofNat 32 scalar).take 32 = Bytes.ofNat 32 scalar :=
    List.take_of_length_le (by simp)
  cases isMain <;> cases isCompressed <;> simp [decode?, encode, field, number, valid]

end SigningKey

namespace ExtendedKey

/-- The fields of a position have the widths that they are written with. -/
structure Position.Fits (position : Position) : Prop where
  parent : position.parent.length = 4
  chainCode : position.chainCode.length = 32

variable {position : Position} {mark key : Bytes}

theorem Position.length_bytes (fits : position.Fits) : position.bytes.length = 41 := by
  simp [bytes, fits.parent, fits.chainCode]

theorem Position.read_bytes (fits : position.Fits) (fourBytes : mark.length = 4) :
    read position.isMain (mark ++ position.bytes ++ key) = position := by
  rcases position with ⟨isMain, depth, parent, number, chainCode⟩
  have small : number.toNat < 256 ^ 4 := number.toNat_lt
  have untilParent : (mark ++ [depth]).length = 5 := by simp [fourBytes]
  have untilNumber : (mark ++ depth :: parent).length = 9 := by simp [fourBytes, fits.parent]
  have untilChain : (mark ++ depth :: parent ++ Bytes.ofNat 4 number.toNat).length = 13 := by
    simp [fourBytes, fits.parent]
  have parentField :=
    Bytes.take_drop_field (Bytes.ofNat 4 number.toNat ++ chainCode ++ key) untilParent fits.parent
  have numberField :=
    Bytes.take_drop_field (chainCode ++ key) untilNumber (Bytes.length_ofNat 4 number.toNat)
  have chainField := Bytes.take_drop_field key untilChain fits.chainCode
  simp only [List.append_assoc, List.cons_append, List.nil_append]
    at parentField numberField chainField
  simp only [read, bytes, List.append_assoc, List.cons_append, parentField, numberField, chainField,
    Bytes.toNat_ofNat small, UInt32.ofNat_toNat]
  simp [fourBytes]

theorem length_privateMark (isMain : Bool) : (privateMark isMain).length = 4 := by
  cases isMain <;> rfl

theorem length_publicMark (isMain : Bool) : (publicMark isMain).length = 4 := by
  cases isMain <;> rfl

section
variable {marks : Bool → Bytes} (widths : ∀ isMain, (marks isMain).length = 4)
include widths

theorem drop_mark_position (fits : position.Fits) :
    (marks position.isMain ++ position.bytes ++ key).drop 45 = key :=
  List.drop_left' (by simp [widths, Position.length_bytes fits])

theorem unpack?_encodeChecked (differ : marks false ≠ marks true) (fits : position.Fits)
    (wide : key.length = 33) :
    unpack? marks (Base58.encodeChecked (marks position.isMain ++ position.bytes ++ key)) =
      some (position.isMain, marks position.isMain ++ position.bytes ++ key) := by
  have front : (marks position.isMain ++ (position.bytes ++ key)).take 4 = marks position.isMain :=
    List.take_left' (widths position.isMain)
  have length : (marks position.isMain ++ (position.bytes ++ key)).length = 78 := by
    simp [widths, wide, Position.length_bytes fits]
  rw [List.append_assoc]
  cases network : position.isMain <;>
    rw [network] at front length <;> simp [unpack?, front, length, differ]

end

/-- A private key of a tree: its position can be written and its scalar is a key. -/
structure Private.IsKey (key : Private) : Prop where
  fits : key.position.Fits
  isScalar : SigningKey.isScalar key.scalar = true

theorem Private.decode?_encode {key : Private} (isKey : key.IsKey) :
    decode? key.encode = some key := by
  let last := 0 :: Bytes.ofNat 32 key.scalar
  have unpacked :=
    unpack?_encodeChecked length_privateMark (by decide) isKey.fits
    (show last.length = 33 by simp [last])
  have digits : (privateMark key.position.isMain ++ key.position.bytes ++ last).drop 46 =
      Bytes.ofNat 32 key.scalar := by
    rw [← List.drop_drop (i := 1) (j := 45), drop_mark_position length_privateMark isKey.fits]
    rfl
  have number := SigningKey.toNat_ofNat_of_isScalar isKey.isScalar
  rw [decode?, encode, unpacked]
  simp only [Option.bind_eq_bind, Option.bind_some, digits, number, isKey.isScalar, if_true,
    Position.read_bytes isKey.fits (length_privateMark _)]

/-- An extended public key is read back from its text if its point is read back from its
encoding. -/
theorem Public.decode?_encode {key : Public} (fits : key.position.Fits)
    (found : Point.ofCompressed? key.point.compressed = some key.point) :
    decode? key.encode = some key := by
  have unpacked :=
    unpack?_encodeChecked length_publicMark (by decide) fits (Secp256k1.length_compressed key.point)
  rw [decode?, encode, unpacked]
  simp only [Option.bind_eq_bind, Option.bind_some, Option.pure_def,
    drop_mark_position length_publicMark fits, found,
    Position.read_bytes fits (length_publicMark _)]

theorem Private.decode?_encode_toPublic {key : Private} (isKey : key.IsKey) :
    Public.decode? key.toPublic.encode = some key.toPublic := by
  obtain ⟨positive, small⟩ := (SigningKey.isScalar_iff key.scalar).mp isKey.isScalar
  exact Public.decode?_encode isKey.fits (Secp256k1.ofCompressed?_ofScalar positive small)

end ExtendedKey

end Coffer
