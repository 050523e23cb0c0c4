import Mathlib.Data.Int.Notation
import Mathlib.Data.List.Nodup
import Mathlib.Tactic.Common

/-!
# JSON trees and wire formats

A JSON tree as a derived (de)serializer sees it : integers are kept apart from the
other numbers, and an object is the list of its members in document order, repeated
keys included.

`Wire α` is a type with an encoder and a decoder that undo each other, and with the
value a missing key stands for. Only optional values have one. `NonNull α` says that
no value encodes to `null`, so `null` is free for `none` : that is what the instance
of `Option α` needs.

Decoding answers `none` for every error. Which error it is, and which of several is
reported first, is not modelled.
-/

namespace Serde

/-- A JSON tree. `int` is a number that the parser reads as an integer, and `float` any other
number, as written : one with a fraction or an exponent, one that no 64-bit integer holds, and
`-0`. -/
inductive Json where
  | null
  | bool (b : Bool)
  | int (n : ℤ)
  | float (text : String)
  | str (s : String)
  | arr (elems : List Json)
  | obj (members : List (String × Json))

/-- The encoder and the decoder of a type, and what a missing key decodes to. -/
class Wire (α : Type) where
  encode : α → Json
  decode : Json → Option α
  absent : Option α
  decode_encode : ∀ a, decode (encode a) = some a

/-- No value of the type is written as `null`. -/
class NonNull (α : Type) [Wire α] : Prop where
  encode_ne_null : ∀ a : α, Wire.encode a ≠ .null

variable {α : Type}

/-! ## Scalars -/

instance : Wire Bool where
  encode := .bool
  decode
    | .bool b => some b
    | _ => none
  absent := none
  decode_encode _ := rfl

instance : NonNull Bool where
  encode_ne_null _ := nofun

instance : Wire String where
  encode := .str
  decode
    | .str s => some s
    | _ => none
  absent := none
  decode_encode _ := rfl

instance : NonNull String where
  encode_ne_null _ := nofun

/-- An integer from `lo` to `hi`. Any other tree is an error. -/
def decodeRange (lo hi : ℤ) (make : ℤ → α) : Json → Option α
  | .int n => if lo ≤ n ∧ n ≤ hi then some (make n) else none
  | _ => none

theorem decodeRange_int {lo hi n : ℤ} (make : ℤ → α) (hlo : lo ≤ n) (hhi : n ≤ hi) :
    decodeRange lo hi make (.int n) = some (make n) := by
  rw [decodeRange, if_pos ⟨hlo, hhi⟩]

/-- An unsigned integer of `size` values is in range. -/
theorem decodeRange_natCast {size n : ℕ} (make : ℤ → α) (h : n < size) :
    decodeRange 0 (size - 1 : ℕ) make (.int n) = some (make n) :=
  decodeRange_int make (Int.natCast_nonneg n) (Int.ofNat_le.mpr (Nat.le_sub_one_of_lt h))

instance : Wire UInt32 where
  encode n := .int n.toNat
  decode := decodeRange 0 (UInt32.size - 1 : ℕ) fun n => .ofNat n.toNat
  absent := none
  decode_encode n := by
    rw [decodeRange_natCast _ n.toNat_lt_size, Int.toNat_natCast, UInt32.ofNat_toNat]

instance : NonNull UInt32 where
  encode_ne_null _ := nofun

instance : Wire UInt64 where
  encode n := .int n.toNat
  decode := decodeRange 0 (UInt64.size - 1 : ℕ) fun n => .ofNat n.toNat
  absent := none
  decode_encode n := by
    rw [decodeRange_natCast _ n.toNat_lt_size, Int.toNat_natCast, UInt64.ofNat_toNat]

instance : NonNull UInt64 where
  encode_ne_null _ := nofun

/-- The machine word : 32 or 64 bits, as the platform has it. -/
instance : Wire USize where
  encode n := .int n.toNat
  decode := decodeRange 0 (USize.size - 1 : ℕ) fun n => .ofNat n.toNat
  absent := none
  decode_encode n := by
    rw [decodeRange_natCast _ n.toNat_lt_size, Int.toNat_natCast, USize.ofNat_toNat]

instance : NonNull USize where
  encode_ne_null _ := nofun

instance : Wire Int64 where
  encode n := .int n.toInt
  decode := decodeRange Int64.minValue.toInt Int64.maxValue.toInt .ofInt
  absent := none
  decode_encode n := by
    rw [decodeRange_int _ n.minValue_le_toInt n.toInt_le, Int64.ofInt_toInt]

instance : NonNull Int64 where
  encode_ne_null _ := nofun

/-! ## Options and lists -/

/-- `null` is `none`, and any other tree is a value. -/
def decodeOption [Wire α] : Json → Option (Option α)
  | .null => some none
  | j => (Wire.decode j).map some

theorem decodeOption_of_ne_null [Wire α] {j : Json} (h : j ≠ .null) :
    decodeOption j = (Wire.decode j : Option α).map some := by
  cases j with
  | null => exact absurd rfl h
  | _ => rfl

/-- A missing key is `none`. -/
instance [Wire α] [NonNull α] : Wire (Option α) where
  encode
    | none => .null
    | some a => Wire.encode a
  decode := decodeOption
  absent := some none
  decode_encode
    | none => rfl
    | some a => by
      change decodeOption (Wire.encode a) = some (some a)
      rw [decodeOption_of_ne_null (NonNull.encode_ne_null a), Wire.decode_encode, Option.map_some]

/-- Decoding the encoded elements one by one gives the list back. -/
theorem mapM_decode_map_encode [Wire α] :
    ∀ l : List α, (l.map Wire.encode).mapM Wire.decode = some l
  | [] => rfl
  | a :: l => by
    simp [Wire.decode_encode, mapM_decode_map_encode l]

instance [Wire α] : Wire (List α) where
  encode l := .arr (l.map Wire.encode)
  decode
    | .arr elems => elems.mapM Wire.decode
    | _ => none
  absent := none
  decode_encode := mapM_decode_map_encode

instance [Wire α] : NonNull (List α) where
  encode_ne_null _ := nofun

/-! ## Enumerations

A variant without fields is written as its name. The decoder also takes the one-key
object whose value is `null`.
-/

/-- A type whose values are named variants without fields. Looking a name up finds its
variant. -/
class Variants (α : Type) where
  name : α → String
  all : List α
  find_name : ∀ a, all.find? (fun b => name b = name a) = some a := by intro a; cases a <;> rfl

/-- The variant of a given name. -/
def Variants.ofName [Variants α] (s : String) : Option α :=
  (all : List α).find? fun b => name b = s

instance [Variants α] : Wire α where
  encode a := .str (Variants.name a)
  decode
    | .str s => Variants.ofName s
    | .obj [(s, .null)] => Variants.ofName s
    | _ => none
  absent := none
  decode_encode := Variants.find_name

instance [Variants α] : NonNull α where
  encode_ne_null _ := nofun

end Serde
