import Muldex.Json

/-!
# Record types on the wire

A `Record σ α` lists the keyed fields of a record type `σ`, in declaration order, each
with the projection that reads it, and the constructor that takes them. It is both the
derived serializer (`members`) and the derived deserializer (`decode`) of `σ`.

A record is written as an object. It is read from an object or from the array of its
fields. In an object unknown keys are ignored, a known key that is repeated is an
error, and a missing key is what its type says (`Wire.absent`). In an array no field
may be missing and none may be left over.

`Struct σ` is a record type whose keys are distinct and whose fields rebuild the value
they are read from. That is all the round trip needs (`Record.decodeMembers_members`). A key
that must be there and is not makes the decoder fail whatever the other members are
(`Record.decodeMembers_eq_none`), and nothing else does where the members are those of a value
(`Struct.isSome_decode_select_iff`).
-/

namespace Serde

/-! ## Members of an object -/

/-- The value of a known key. -/
def member {α : Type} [Wire α] (ms : List (String × Json)) (key : String) : Option α :=
  match ms.filter fun p => p.1 = key with
  | [] => Wire.absent
  | [p] => Wire.decode p.2
  | _ => none

/-- Among distinct keys, a member is the only one of its key. -/
theorem filter_key_of_mem {ms : List (String × Json)} {key : String} {j : Json}
    (hnodup : (ms.map Prod.fst).Nodup) (h : (key, j) ∈ ms) :
    (ms.filter fun p => p.1 = key) = [(key, j)] := by
  induction ms with
  | nil => simp at h
  | cons p ms ih =>
    rw [List.map_cons, List.nodup_cons] at hnodup
    obtain ⟨hp, hms⟩ := hnodup
    rcases List.mem_cons.mp h with rfl | hmem
    · have hrest : (ms.filter fun q => q.1 = key) = [] := by
        rw [List.filter_eq_nil_iff]
        intro q hq hkey
        exact hp (List.mem_map.mpr ⟨q, hq, by simpa using hkey⟩)
      rw [List.filter_cons_of_pos (by simp), hrest]
    · have hne : p.1 ≠ key := fun heq => hp (List.mem_map.mpr ⟨_, hmem, heq.symm⟩)
      rw [List.filter_cons_of_neg (by simpa using hne), ih hms hmem]

theorem member_of_mem {α : Type} [Wire α] {ms : List (String × Json)} {key : String} {j : Json}
    (hnodup : (ms.map Prod.fst).Nodup) (h : (key, j) ∈ ms) :
    member ms key = (Wire.decode j : Option α) := by
  rw [member, filter_key_of_mem hnodup h]

theorem member_of_not_mem {α : Type} [Wire α] {ms : List (String × Json)} {key : String}
    (h : key ∉ ms.map Prod.fst) : member ms key = (Wire.absent : Option α) := by
  have hfilter : (ms.filter fun p => p.1 = key) = [] := by
    rw [List.filter_eq_nil_iff]
    intro p hp hkey
    exact h (List.mem_map.mpr ⟨p, hp, by simpa using hkey⟩)
  rw [member, hfilter]

/-! ## Records -/

/-- Fields of `σ` and the constructor that takes them. -/
inductive Record (σ : Type) : Type → Type 1 where
  | make {α : Type} (a : α) : Record σ α
  | snoc {α β : Type} (r : Record σ (β → α)) (key : String) (get : σ → β) (wire : Wire β) :
    Record σ α

namespace Record

/-- A record of `σ` with no field yet, to be built by `a`. -/
def of (σ : Type) {α : Type} (a : α) : Record σ α :=
  .make a

variable {σ : Type}

/-- One more field. -/
def field {α β : Type} [wire : Wire β] (r : Record σ (β → α)) (key : String) (get : σ → β) :
    Record σ α :=
  .snoc r key get wire

/-- The keys, in order. -/
def keys : {α : Type} → Record σ α → List String
  | _, .make _ => []
  | _, .snoc r key _ _ => r.keys ++ [key]

/-- The keys whose absence is an error. -/
def required : {α : Type} → Record σ α → List String
  | _, .make _ => []
  | _, .snoc r key _ wire =>
    if wire.absent.isNone then r.required ++ [key] else r.required

/-- The members a value is written as. -/
def members : {α : Type} → Record σ α → σ → List (String × Json)
  | _, .make _, _ => []
  | _, .snoc r key get _, s => r.members s ++ [(key, Wire.encode (get s))]

/-- The constructor applied to the fields read from a value. -/
def rebuild : {α : Type} → Record σ α → σ → α
  | _, .make a, _ => a
  | _, .snoc r _ get _, s => r.rebuild s (get s)

/-- Read from the members of an object. -/
def decodeMembers : {α : Type} → Record σ α → List (String × Json) → Option α
  | _, .make a, _ => some a
  | _, .snoc r key _ _, ms => do
    let build ← r.decodeMembers ms
    let value ← member ms key
    return build value

/-- Read from the front of an array, with what is left of it. -/
def decodeElems : {α : Type} → Record σ α → List Json → Option (α × List Json)
  | _, .make a, elems => some (a, elems)
  | _, .snoc r _ _ _, elems => do
    let (build, rest) ← r.decodeElems elems
    match rest with
    | [] => none
    | elem :: rest =>
      let value ← Wire.decode elem
      return (build value, rest)

/-- Read from a tree. -/
def decode {α : Type} (r : Record σ α) : Json → Option α
  | .obj ms => r.decodeMembers ms
  | .arr elems =>
    match r.decodeElems elems with
    | some (a, []) => some a
    | _ => none
  | _ => none

@[simp] theorem decode_obj {α : Type} (r : Record σ α) (ms : List (String × Json)) :
    r.decode (.obj ms) = r.decodeMembers ms :=
  rfl

/-- A value is written under the record's keys. -/
theorem map_fst_members (s : σ) :
    ∀ {α : Type} (r : Record σ α), (r.members s).map Prod.fst = r.keys
  | _, .make _ => rfl
  | _, .snoc r key _ _ => by simp [members, keys, map_fst_members s r]

/-- What is required is a key. -/
theorem required_subset_keys : ∀ {α : Type} (r : Record σ α), r.required ⊆ r.keys
  | _, .make _ => List.Subset.refl _
  | _, .snoc r key _ wire => by
    have hr := required_subset_keys r
    rw [required, keys]
    split_ifs
    · exact List.append_subset.mpr
        ⟨List.Subset.trans hr (List.subset_append_left _ _), List.subset_append_right _ _⟩
    · exact List.Subset.trans hr (List.subset_append_left _ _)

/-- Members that contain those of a value, under distinct keys, are read as that value. -/
theorem decodeMembers_of_subset {ms : List (String × Json)} (hnodup : (ms.map Prod.fst).Nodup)
    (s : σ) : ∀ {α : Type} (r : Record σ α), r.members s ⊆ ms →
      r.decodeMembers ms = some (r.rebuild s)
  | _, .make _, _ => rfl
  | _, .snoc r key get _, h => by
    rw [members, List.append_subset] at h
    have hr := decodeMembers_of_subset hnodup s r h.1
    have hkey := (member_of_mem hnodup (h.2 List.mem_cons_self)).trans (Wire.decode_encode (get s))
    simp only [decodeMembers, hr, hkey, Option.bind_eq_bind, Option.bind_some, rebuild]
    rfl

/-- What a value is written as is read as its rebuilt value. -/
theorem decodeMembers_members {α : Type} (r : Record σ α) (hkeys : r.keys.Nodup) (s : σ) :
    r.decodeMembers (r.members s) = some (r.rebuild s) :=
  decodeMembers_of_subset (by rwa [map_fst_members]) s r (List.Subset.refl _)

/-- A missing required key is an error, whatever the other members are. -/
theorem decodeMembers_eq_none {ms : List (String × Json)} {key : String}
    (hms : key ∉ ms.map Prod.fst) :
    ∀ {α : Type} (r : Record σ α), key ∈ r.required → r.decodeMembers ms = none
  | _, .make _, h => by simp [required] at h
  | _, .snoc r key' _ wire, h => by
    cases habsent : wire.absent with
    | some b =>
      rw [required, habsent, Option.isNone_some, if_neg (by simp)] at h
      simp only [decodeMembers, decodeMembers_eq_none hms r h]
      rfl
    | none =>
      rw [required, habsent, Option.isNone_none, if_pos rfl, List.mem_append,
        List.mem_singleton] at h
      rcases h with h | rfl
      · simp only [decodeMembers, decodeMembers_eq_none hms r h]
        rfl
      · have hmember := @member_of_not_mem _ wire _ _ hms
        rw [habsent] at hmember
        simp only [decodeMembers, hmember]
        cases r.decodeMembers ms <;> rfl

/-- Members that agree with those of a value wherever they have its keys are read exactly
when no required key is missing. -/
theorem isSome_decodeMembers_iff {ms : List (String × Json)} (hnodup : (ms.map Prod.fst).Nodup)
    (s : σ) : ∀ {α : Type} (r : Record σ α),
      (∀ m ∈ r.members s, m.1 ∈ ms.map Prod.fst → m ∈ ms) →
        ((r.decodeMembers ms).isSome = true ↔ ∀ key ∈ r.required, key ∈ ms.map Prod.fst)
  | _, .make _, _ => by simp [decodeMembers, required]
  | _, .snoc r key get wire, h => by
    have hr := isSome_decodeMembers_iff hnodup s r
      fun m hm => h m (List.mem_append_left _ hm)
    have hkey : (@member _ wire ms key).isSome = true ↔
        (wire.absent.isNone = true → key ∈ ms.map Prod.fst) := by
      by_cases hmem : key ∈ ms.map Prod.fst
      · have hfield := h (key, Wire.encode (get s)) (by simp [members]) hmem
        rw [member_of_mem hnodup hfield, Wire.decode_encode]
        simp [hmem]
      · rw [member_of_not_mem hmem]
        cases wire.absent <;> simp [hmem]
    have hboth : ((Record.snoc r key get wire).decodeMembers ms).isSome = true ↔
        (r.decodeMembers ms).isSome = true ∧ (@member _ wire ms key).isSome = true := by
      cases hbuild : r.decodeMembers ms <;> cases hvalue : @member _ wire ms key <;>
        simp [decodeMembers, hbuild, hvalue]
    rw [hboth, hr, hkey, required]
    split_ifs with habsent
    · simp [habsent, or_imp, forall_and]
    · simp [habsent]

end Record

/-! ## Record types -/

/-- A type with a derived record format. The keys are distinct, and the fields read
rebuild the value. -/
class Struct (σ : Type) where
  record : Record σ σ
  nodup_keys : record.keys.Nodup := by decide
  rebuild_eq : ∀ s, record.rebuild s = s := by exact fun _ => rfl

variable {σ : Type}

instance [Struct σ] : Wire σ where
  encode s := .obj (Struct.record.members s)
  decode := (Struct.record : Record σ σ).decode
  absent := none
  decode_encode s := by
    rw [Record.decode_obj, Record.decodeMembers_members _ Struct.nodup_keys, Struct.rebuild_eq]

instance [Struct σ] : NonNull σ where
  encode_ne_null _ := nofun

/-- The keys of a record type. -/
def Struct.keys (σ : Type) [Struct σ] : List String :=
  (record : Record σ σ).keys

/-- The keys of a record type that must be there. -/
def Struct.required (σ : Type) [Struct σ] : List String :=
  (record : Record σ σ).required

theorem Struct.encode_eq [Struct σ] (s : σ) : Wire.encode s = .obj (record.members s) :=
  rfl

/-- A value is written under the keys of its type. -/
theorem Struct.mem_keys_of_mem_members [Struct σ] (s : σ) :
    ∀ key ∈ (record.members s).map Prod.fst, key ∈ Struct.keys σ := by
  rw [Record.map_fst_members]
  exact fun _ h => h

/-- An object whose keys leave a required key out is not read. -/
theorem Struct.decode_eq_none [Struct σ] {ms : List (String × Json)} {keys : List String}
    {key : String} (hms : ∀ k ∈ ms.map Prod.fst, k ∈ keys) (hkey : key ∉ keys)
    (hreq : key ∈ Struct.required σ) : (Wire.decode (.obj ms) : Option σ) = none :=
  Record.decodeMembers_eq_none (fun h => hkey (hms key h)) record hreq

/-- The members of a value under some of its keys. -/
def Struct.select [Struct σ] (names : List String) (s : σ) : List (String × Json) :=
  (record.members s).filter fun m => m.1 ∈ names

theorem Struct.map_fst_select [Struct σ] (names : List String) (s : σ) :
    (select names s).map Prod.fst = (Struct.keys σ).filter (· ∈ names) := by
  rw [select, Struct.keys, ← Record.map_fst_members s, List.filter_map]
  rfl

/-- A value under some of its keys is read exactly when the required ones are among them. -/
theorem Struct.isSome_decode_select_iff [Struct σ] (names : List String) (s : σ) :
    (Wire.decode (.obj (select names s)) : Option σ).isSome = true ↔
      ∀ key ∈ Struct.required σ, key ∈ names := by
  have hnodup : ((select names s).map Prod.fst).Nodup := by
    rw [map_fst_select]
    exact List.Nodup.filter _ nodup_keys
  have hagree : ∀ m ∈ record.members s, m.1 ∈ (select names s).map Prod.fst →
      m ∈ select names s := by
    intro m hm hkey
    rw [map_fst_select, List.mem_filter] at hkey
    exact List.mem_filter.mpr ⟨hm, hkey.2⟩
  have hread : (Wire.decode (.obj (select names s)) : Option σ).isSome = true ↔
      ∀ key ∈ Struct.required σ, key ∈ (select names s).map Prod.fst :=
    Record.isSome_decodeMembers_iff hnodup s record hagree
  rw [hread, map_fst_select]
  refine forall₂_congr fun key hrequired => ?_
  rw [List.mem_filter, decide_eq_true_iff]
  exact and_iff_right (Record.required_subset_keys record hrequired)

end Serde
