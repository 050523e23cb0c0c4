import Mathlib.Data.List.Forall2
import Muldex.Record

/-!
# Which documents a record type accepts

A record is read from an object or from an array. Both are settled here.

* In an object only the members under known keys count (`Record.decodeMembers_congr`), and
  it is accepted exactly when no known key is repeated, no required key is missing, and the
  value under every known key is accepted (`Record.isSome_decodeMembers_iff_accepts`).
* An array is read as the object that pairs the keys, in declaration order, with its
  elements, and not at all if their numbers differ (`Record.decode_arr`).

Any other tree is rejected. `Struct.isSome_decode_iff` puts the three together.
-/

namespace Serde

/-! ## Members -/

/-- Only the members under the key are read. -/
theorem member_congr {α : Type} [Wire α] {ms ms' : List (String × Json)} {key : String}
    (h : (ms.filter fun m => m.1 = key) = ms'.filter fun m => m.1 = key) :
    (member ms key : Option α) = member ms' key := by
  rw [member, h, member]

/-- The members under a key are as many as the key is repeated. -/
theorem length_filter_key (ms : List (String × Json)) (key : String) :
    (ms.filter fun m => m.1 = key).length = (ms.map Prod.fst).count key := by
  rw [List.count, List.countP_map, List.countP_eq_length_filter]
  refine congrArg List.length (List.filter_congr fun m _ => ?_)
  rw [Bool.eq_iff_iff]
  simp

/-- A member is read when it is there once and accepted, or missing where it may be. -/
theorem isSome_member_iff {α : Type} [Wire α] (ms : List (String × Json)) (key : String) :
    (member ms key : Option α).isSome = true ↔
      ((Wire.absent : Option α).isNone = true → key ∈ ms.map Prod.fst) ∧
        (ms.map Prod.fst).count key ≤ 1 ∧
        ∀ m ∈ ms, m.1 = key → (Wire.decode m.2 : Option α).isSome = true := by
  have hmem : ∀ m, m ∈ (ms.filter fun m => m.1 = key) ↔ m ∈ ms ∧ m.1 = key := by simp
  rw [← length_filter_key, ← List.count_pos_iff, ← length_filter_key, member]
  have hvalues : (∀ m ∈ ms, m.1 = key → (Wire.decode m.2 : Option α).isSome = true) ↔
      ∀ m ∈ (ms.filter fun m => m.1 = key), (Wire.decode m.2 : Option α).isSome = true := by
    simp only [hmem, and_imp]
  rw [hvalues]
  cases ms.filter fun m => m.1 = key with
  | nil => cases (Wire.absent : Option α) <;> simp
  | cons m rest =>
    cases rest with
    | nil => simp
    | cons => simp

namespace Record

variable {σ : Type}

/-! ## Objects -/

/-- Two objects with the same members under each known key are read alike. -/
theorem decodeMembers_congr {ms ms' : List (String × Json)} :
    ∀ {α : Type} (r : Record σ α),
      (∀ key ∈ r.keys, (ms.filter fun m => m.1 = key) = ms'.filter fun m => m.1 = key) →
        r.decodeMembers ms = r.decodeMembers ms'
  | _, .make _, _ => rfl
  | _, .snoc r key _ wire, h => by
    have hr := decodeMembers_congr r fun k hk => h k (List.mem_append_left _ hk)
    have hkey := @member_congr _ wire _ _ key (h key (by simp [keys]))
    rw [decodeMembers, decodeMembers, hr, hkey]

/-- The value is accepted by every field of the key : by the one there is, if the key is
known. -/
def Accepts : {α : Type} → Record σ α → String → Json → Prop
  | _, .make _, _, _ => True
  | _, .snoc r key _ wire, k, j =>
    r.Accepts k j ∧ (k = key → (@Wire.decode _ wire j).isSome = true)

/-- An unknown key accepts every value. -/
theorem accepts_of_not_mem_keys {key : String} (j : Json) :
    ∀ {α : Type} (r : Record σ α), key ∉ r.keys → r.Accepts key j
  | _, .make _, _ => trivial
  | _, .snoc r k _ _, h => by
    rw [keys, List.mem_append, List.mem_singleton, not_or] at h
    exact ⟨accepts_of_not_mem_keys j r h.1, fun heq => absurd heq h.2⟩

/-- An object is accepted exactly when no required key is missing, no known key is repeated
and every value is accepted. -/
theorem isSome_decodeMembers_iff_accepts (ms : List (String × Json)) :
    ∀ {α : Type} (r : Record σ α), (r.decodeMembers ms).isSome = true ↔
      (∀ key ∈ r.required, key ∈ ms.map Prod.fst) ∧
        (∀ key ∈ r.keys, (ms.map Prod.fst).count key ≤ 1) ∧ ∀ m ∈ ms, r.Accepts m.1 m.2
  | _, .make _ => by simp [decodeMembers, required, keys, Accepts]
  | _, .snoc r key _ wire => by
    have hr := isSome_decodeMembers_iff_accepts ms r
    have hkey := @isSome_member_iff _ wire ms key
    have hboth : ((Record.snoc r key ‹_› wire).decodeMembers ms).isSome = true ↔
        (r.decodeMembers ms).isSome = true ∧ (@member _ wire ms key).isSome = true := by
      cases hbuild : r.decodeMembers ms <;> cases hvalue : @member _ wire ms key <;>
        simp [decodeMembers, hbuild, hvalue]
    have hrequired : (∀ k ∈ (Record.snoc r key ‹_› wire).required, k ∈ ms.map Prod.fst) ↔
        (∀ k ∈ r.required, k ∈ ms.map Prod.fst) ∧
          (wire.absent.isNone = true → key ∈ ms.map Prod.fst) := by
      rw [required]
      split_ifs with habsent
      · simp [habsent, or_imp, forall_and]
      · simp [habsent]
    rw [hboth, hr, hkey, hrequired]
    simp only [keys, Accepts, List.mem_append, List.mem_singleton, or_imp, forall_and,
      forall_eq]
    constructor
    · rintro ⟨⟨hall, honce, haccepts⟩, hthere, honceKey, hvalue⟩
      exact ⟨⟨hall, hthere⟩, ⟨honce, honceKey⟩, haccepts, hvalue⟩
    · rintro ⟨⟨hall, hthere⟩, ⟨honce, honceKey⟩, haccepts, hvalue⟩
      exact ⟨⟨hall, honce, haccepts⟩, hthere, honceKey, hvalue⟩

/-! ## Arrays -/

/-- The members of earlier keys are read alike when a later key is added. -/
theorem decodeMembers_append_of_not_mem {α : Type} (r : Record σ α) (ms : List (String × Json))
    {key : String} (j : Json) (h : key ∉ r.keys) :
    r.decodeMembers (ms ++ [(key, j)]) = r.decodeMembers ms := by
  refine decodeMembers_congr r fun k hk => ?_
  have hne : key ≠ k := fun heq => h (heq ▸ hk)
  rw [List.filter_append, List.filter_cons_of_neg (by simpa using hne), List.filter_nil,
    List.append_nil]

/-- The elements of the keys are read as the object they make up, and the rest is left. -/
theorem decodeElems_append :
    ∀ {α : Type} (r : Record σ α) (elems rest : List Json), r.keys.Nodup →
      elems.length = r.keys.length →
        r.decodeElems (elems ++ rest) = (r.decodeMembers (r.keys.zip elems)).map (·, rest)
  | _, .make _, elems, rest, _, h => by
    obtain rfl := List.length_eq_zero_iff.mp h
    rfl
  | _, .snoc r key _ wire, elems, rest, hkeys, h => by
    rw [keys, List.length_append, List.length_singleton] at h
    rcases elems.eq_nil_or_concat' with rfl | ⟨front, elem, rfl⟩
    · cases h
    rw [List.length_append, List.length_singleton, Nat.add_right_cancel_iff] at h
    rw [keys] at hkeys
    obtain ⟨hr, -, hnew⟩ := List.nodup_append.mp hkeys
    have hzip : (r.keys ++ [key]).zip (front ++ [elem]) = r.keys.zip front ++ [(key, elem)] :=
      List.zip_append h.symm
    have hfst : ((r.keys.zip front ++ [(key, elem)]).map Prod.fst).Nodup := by
      rw [← hzip, List.map_fst_zip (by simp [h])]
      exact hkeys
    have hkey : @member _ wire (r.keys.zip front ++ [(key, elem)]) key =
        @Wire.decode _ wire elem := @member_of_mem _ wire _ _ _ hfst (by simp)
    have hfront := decodeElems_append r front (elem :: rest) hr h
    have hbuild := r.decodeMembers_append_of_not_mem (r.keys.zip front) elem
      fun hmem => hnew key hmem key (by simp) rfl
    rw [List.append_assoc, List.singleton_append, decodeElems, hfront, keys, hzip, decodeMembers,
      hbuild, hkey]
    cases r.decodeMembers (r.keys.zip front) with
    | none => rfl
    | some build =>
      cases hvalue : @Wire.decode _ wire elem <;> simp [hvalue]

/-- Fewer elements than keys are not read. -/
theorem decodeElems_eq_none :
    ∀ {α : Type} (r : Record σ α) (elems : List Json), r.keys.Nodup →
      elems.length < r.keys.length → r.decodeElems elems = none
  | _, .make _, elems, _, h => by simp [keys] at h
  | _, .snoc r key _ _, elems, hkeys, h => by
    rw [keys] at hkeys
    have hr := (List.nodup_append.mp hkeys).1
    rw [keys, List.length_append, List.length_singleton] at h
    rcases Nat.lt_succ_iff_lt_or_eq.mp h with hlt | heq
    · rw [decodeElems, decodeElems_eq_none r elems hr hlt]
      rfl
    · -- The elements end just before the last field.
      have hfront := decodeElems_append r elems [] hr heq
      rw [List.append_nil] at hfront
      rw [decodeElems, hfront]
      cases r.decodeMembers (r.keys.zip elems) <;> rfl

/-- An array is read as the object that pairs the keys with its elements, and only if they
are as many. -/
theorem decode_arr {α : Type} (r : Record σ α) (hkeys : r.keys.Nodup) (elems : List Json) :
    r.decode (.arr elems) =
      if elems.length = r.keys.length then r.decode (.obj (r.keys.zip elems)) else none := by
  have hdecode : r.decode (.arr elems) =
      (r.decodeElems elems).bind fun read => if read.2.isEmpty then some read.1 else none := by
    rcases hread : r.decodeElems elems with _ | ⟨a, _ | ⟨elem, rest⟩⟩ <;> simp [decode, hread]
  rw [hdecode, decode_obj]
  split_ifs with heq
  · have hall := decodeElems_append r elems [] hkeys heq
    rw [List.append_nil] at hall
    rw [hall]
    cases r.decodeMembers (r.keys.zip elems) <;> rfl
  · rcases Nat.lt_or_gt_of_ne heq with hlt | hgt
    · rw [decodeElems_eq_none r elems hkeys hlt, Option.bind_none]
    · -- The elements after the last field are left over.
      have hsplit := decodeElems_append r (elems.take r.keys.length) (elems.drop r.keys.length)
        hkeys (by rw [List.length_take]; omega)
      rw [List.take_append_drop] at hsplit
      have hrest : elems.drop r.keys.length ≠ [] := by simpa using hgt
      rw [hsplit]
      cases r.decodeMembers (r.keys.zip (elems.take r.keys.length)) with
      | none => rfl
      | some a =>
        cases hdrop : elems.drop r.keys.length with
        | nil => exact absurd hdrop hrest
        | cons => rfl

end Record

/-! ## Record types -/

/-- The value is one that the field of the key accepts. -/
def Struct.Accepts (σ : Type) [Struct σ] (key : String) (j : Json) : Prop :=
  (record : Record σ σ).Accepts key j

variable {σ : Type} [Struct σ]

/-- The members under known keys. -/
def Struct.known (σ : Type) [Struct σ] (ms : List (String × Json)) : List (String × Json) :=
  ms.filter fun m => m.1 ∈ Struct.keys σ

/-- The members under unknown keys are ignored. -/
theorem Struct.decode_known (ms : List (String × Json)) :
    (Wire.decode (.obj (known σ ms)) : Option σ) = Wire.decode (.obj ms) := by
  refine Record.decodeMembers_congr record fun key hkey => ?_
  rw [known, List.filter_filter]
  refine List.filter_congr fun m _ => ?_
  rw [Bool.eq_iff_iff]
  simp only [Bool.and_eq_true, decide_eq_true_eq]
  exact and_iff_left_of_imp fun heq => heq ▸ hkey

/-- An array is read as the object of the same values, in the order of the keys. -/
theorem Struct.decode_arr (elems : List Json) :
    (Wire.decode (.arr elems) : Option σ) =
      if elems.length = (Struct.keys σ).length then
        Wire.decode (.obj ((Struct.keys σ).zip elems))
      else none :=
  Record.decode_arr record nodup_keys elems

/-- An object is accepted exactly when no required key is missing, no known key is repeated
and every known key has a value it accepts. -/
theorem Struct.isSome_decode_obj_iff (ms : List (String × Json)) :
    (Wire.decode (.obj ms) : Option σ).isSome = true ↔
      (∀ key ∈ Struct.required σ, key ∈ ms.map Prod.fst) ∧
        (∀ key ∈ Struct.keys σ, (ms.map Prod.fst).count key ≤ 1) ∧
        ∀ m ∈ ms, Struct.Accepts σ m.1 m.2 :=
  Record.isSome_decodeMembers_iff_accepts ms record

/-- What a record type is read from : an object with every required key, no known key twice
and accepted values, or an array of accepted values, one for each key. -/
def Struct.Acceptable (σ : Type) [Struct σ] : Json → Prop
  | .obj ms =>
    (∀ key ∈ Struct.required σ, key ∈ ms.map Prod.fst) ∧
      (∀ key ∈ Struct.keys σ, (ms.map Prod.fst).count key ≤ 1) ∧
      ∀ m ∈ ms, Struct.Accepts σ m.1 m.2
  | .arr elems =>
    elems.length = (Struct.keys σ).length ∧
      ∀ m ∈ (Struct.keys σ).zip elems, Struct.Accepts σ m.1 m.2
  | _ => False

theorem Struct.isSome_decode_iff (j : Json) :
    (Wire.decode j : Option σ).isSome = true ↔ Acceptable σ j := by
  match j with
  | .obj ms => exact isSome_decode_obj_iff ms
  | .arr elems =>
    rw [decode_arr, Acceptable]
    split_ifs with hlength
    · have hkeys : ((Struct.keys σ).zip elems).map Prod.fst = Struct.keys σ :=
        List.map_fst_zip (by omega)
      rw [isSome_decode_obj_iff, hkeys]
      have hrequired : ∀ key ∈ Struct.required σ, key ∈ Struct.keys σ :=
        fun _ hkey => Record.required_subset_keys record hkey
      have honce : ∀ key ∈ Struct.keys σ, (Struct.keys σ).count key ≤ 1 :=
        fun key _ => List.nodup_iff_count_le_one.mp nodup_keys key
      exact ⟨fun h => ⟨hlength, h.2.2⟩, fun h => ⟨hrequired, honce, h.2⟩⟩
    · simp [hlength]
  | .null | .bool _ | .int _ | .float _ | .str _ =>
    exact iff_of_false Bool.false_ne_true not_false

/-- The values a record is written with, in the order of the keys. -/
def Struct.fields (s : σ) : List Json :=
  (record.members s).map Prod.snd

theorem Struct.zip_fields (s : σ) : (Struct.keys σ).zip (fields s) = record.members s := by
  have hfst : (record.members s).map Prod.fst = Struct.keys σ := Record.map_fst_members s record
  rw [← hfst, fields]
  exact (List.zip_of_prod rfl rfl).symm

theorem Struct.length_fields (s : σ) : (fields s).length = (Struct.keys σ).length := by
  have hfst : (record.members s).map Prod.fst = Struct.keys σ := Record.map_fst_members s record
  rw [← hfst, fields, List.length_map, List.length_map]

/-- A value is read back from the array of its fields. -/
theorem Struct.decode_fields (s : σ) : Wire.decode (.arr (fields s)) = some s := by
  rw [decode_arr, if_pos (length_fields s), zip_fields, ← encode_eq, Wire.decode_encode]

end Serde
