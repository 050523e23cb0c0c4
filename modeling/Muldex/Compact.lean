import Muldex.Reorder

/-!
# Documents without their nulls

A writer may leave out the members whose value is `null`, and list the others in any order.
`Compacted j j'` says that `j'` is `j` written in this way, at any depth, and `Compactable α`
that a value is read back from every such form of what it is written as.

It is not a property of trees alone. A member that is left out is read as `absent`, and so a
type may be written as `null` only if `null` and a missing key mean the same there
(`Compactable.absent_eq`). Of the types of the wire format only options are. A record is
compactable as soon as its fields are (`Record.decodeMembers_of_compacted`).
-/

namespace Serde

/-- The second tree is the first with members of value `null` left out and the others in any
order, at any depth. -/
inductive Compacted : Json → Json → Prop
  | refl (j : Json) : Compacted j j
  | arr {elems elems' : List Json} (helems : List.Forall₂ Compacted elems elems') :
    Compacted (.arr elems) (.arr elems')
  | obj {ms ms₁ ms' : List (String × Json)} {keep : String × Json → Bool}
    (hkeep : ∀ m ∈ ms, keep m = false → m.2 = .null) (hperm : (ms.filter keep).Perm ms₁)
    (hkeys : ms₁.map Prod.fst = ms'.map Prod.fst)
    (hvalues : List.Forall₂ Compacted (ms₁.map Prod.snd) (ms'.map Prod.snd)) :
    Compacted (.obj ms) (.obj ms')

/-- Members of value `null` left out. -/
theorem Compacted.of_filter {ms : List (String × Json)} {keep : String × Json → Bool}
    (hkeep : ∀ m ∈ ms, keep m = false → m.2 = .null) :
    Compacted (.obj ms) (.obj (ms.filter keep)) :=
  .obj hkeep (.refl _) rfl (List.forall₂_same.mpr fun j _ => .refl j)

/-- A value is read back from every compacted form of its tree. -/
class Compactable (α : Type) [Wire α] : Prop where
  absent_eq : ∀ a : α, Wire.encode a = .null → (Wire.absent : Option α) = some a
  decode_eq : ∀ (a : α) {j : Json}, Compacted (Wire.encode a) j → Wire.decode j = some a

variable {α : Type}

/-! ## Scalars, options and lists -/

/-- A scalar has no other form. -/
theorem Compactable.of_scalar [Wire α] [NonNull α]
    (harr : ∀ (a : α) elems, Wire.encode a ≠ .arr elems)
    (hobj : ∀ (a : α) ms, Wire.encode a ≠ .obj ms) : Compactable α where
  absent_eq a h := absurd h (NonNull.encode_ne_null a)
  decode_eq a j h := by
    have hdecode := Wire.decode_encode a
    generalize hencode : Wire.encode a = j₀ at h hdecode
    cases h with
    | refl => exact hdecode
    | arr => exact absurd hencode (harr a _)
    | obj => exact absurd hencode (hobj a _)

instance : Compactable Bool := .of_scalar (fun _ _ => nofun) fun _ _ => nofun

instance : Compactable String := .of_scalar (fun _ _ => nofun) fun _ _ => nofun

instance : Compactable UInt32 := .of_scalar (fun _ _ => nofun) fun _ _ => nofun

instance : Compactable UInt64 := .of_scalar (fun _ _ => nofun) fun _ _ => nofun

instance : Compactable USize := .of_scalar (fun _ _ => nofun) fun _ _ => nofun

instance : Compactable Int64 := .of_scalar (fun _ _ => nofun) fun _ _ => nofun

instance [Variants α] : Compactable α := .of_scalar (fun _ _ => nofun) fun _ _ => nofun

/-- Only `null` is compacted to `null`. -/
theorem Compacted.ne_null {j j' : Json} (h : Compacted j j') (hj : j ≠ .null) : j' ≠ .null := by
  cases h with
  | refl => exact hj
  | arr => exact nofun
  | obj => exact nofun

instance [Wire α] [NonNull α] [Compactable α] : Compactable (Option α) where
  absent_eq
    | none, _ => rfl
    | some a, h => absurd h (NonNull.encode_ne_null a)
  decode_eq value j h := by
    cases value with
    | none =>
      change Compacted .null j at h
      cases h with
      | refl => rfl
    | some a =>
      change Compacted (Wire.encode a) j at h
      have hj : j ≠ .null := h.ne_null (NonNull.encode_ne_null a)
      change decodeOption j = some (some a)
      rw [decodeOption_of_ne_null hj, Compactable.decode_eq a h, Option.map_some]

/-- Compacted elements are read back. -/
theorem mapM_decode_of_forall₂ [Wire α] [Compactable α] :
    ∀ {l : List α} {elems : List Json}, List.Forall₂ Compacted (l.map Wire.encode) elems →
      elems.mapM Wire.decode = some l
  | [], _, .nil => rfl
  | a :: l, _, .cons hhead htail => by
    rw [List.mapM_cons, Compactable.decode_eq a hhead, mapM_decode_of_forall₂ htail]
    rfl

instance [Wire α] [Compactable α] : Compactable (List α) where
  absent_eq _ h := nomatch h
  decode_eq l j h := by
    cases h with
    | refl => exact mapM_decode_map_encode l
    | arr helems => exact mapM_decode_of_forall₂ helems

/-! ## Records -/

/-- An object is compacted to an object without further keys. -/
theorem Compacted.exists_obj {ms : List (String × Json)} {j : Json} (h : Compacted (.obj ms) j) :
    ∃ ms', j = .obj ms' ∧ ∀ key ∈ ms'.map Prod.fst, key ∈ ms.map Prod.fst := by
  cases h with
  | refl => exact ⟨ms, rfl, fun _ hkey => hkey⟩
  | @obj _ ms₁ ms' keep _ hperm hkeys _ =>
    refine ⟨ms', rfl, fun key hkey => ?_⟩
    rw [← hkeys, ← (hperm.map Prod.fst).mem_iff] at hkey
    exact (List.filter_sublist.map Prod.fst).subset hkey

/-- An object whose one member is not `null` keeps it. -/
theorem Compacted.obj_singleton {key : String} {j raw : Json}
    (h : Compacted (.obj [(key, j)]) raw) (hj : j ≠ .null) :
    ∃ j', raw = .obj [(key, j')] ∧ Compacted j j' := by
  cases h with
  | refl => exact ⟨j, rfl, .refl j⟩
  | @obj _ ms₁ ms' keep hkeep hperm hkeys hvalues =>
    have hkept : keep (key, j) = true := by
      by_contra hdropped
      exact hj (hkeep (key, j) List.mem_cons_self (by simpa using hdropped))
    rw [List.filter_cons_of_pos hkept, List.filter_nil] at hperm
    obtain rfl := List.singleton_perm.mp hperm
    obtain ⟨⟨key', j'⟩, rfl, hkey⟩ := List.map_eq_singleton_iff.mp hkeys.symm
    obtain rfl : key' = key := hkey
    exact ⟨j', rfl, (List.forall₂_cons.mp hvalues).1⟩

/-- A member that is kept keeps its key. -/
theorem Compacted.exists_mem {ms ms' : List (String × Json)}
    (hkeys : ms.map Prod.fst = ms'.map Prod.fst)
    (hvalues : List.Forall₂ Compacted (ms.map Prod.snd) (ms'.map Prod.snd)) {key : String}
    {j : Json} (h : (key, j) ∈ ms) : ∃ j', (key, j') ∈ ms' ∧ Compacted j j' := by
  induction ms generalizing ms' with
  | nil => cases h
  | cons m ms ih =>
    cases ms' with
    | nil => cases hkeys
    | cons m' ms' =>
      rw [List.map_cons, List.map_cons, List.cons.injEq] at hkeys
      rw [List.map_cons, List.map_cons, List.forall₂_cons] at hvalues
      rcases List.mem_cons.mp h with rfl | hmem
      · exact ⟨m'.2, List.mem_cons.mpr (Or.inl (Prod.ext hkeys.1 rfl)), hvalues.1⟩
      · obtain ⟨j', hj', hcompacted⟩ := ih hkeys.2 hvalues.2 hmem
        exact ⟨j', List.mem_cons_of_mem _ hj', hcompacted⟩

/-- A member of the compacted object is one that is kept, or it is missing and `null`. -/
def Kept (ms' : List (String × Json)) (m : String × Json) : Prop :=
  (∃ j', (m.1, j') ∈ ms' ∧ Compacted m.2 j') ∨ (m.2 = .null ∧ m.1 ∉ ms'.map Prod.fst)

/-- Under distinct keys every member of the object is kept or missing and `null`, and the keys
stay distinct. -/
theorem kept_of_compacted {ms ms₁ ms' : List (String × Json)} {keep : String × Json → Bool}
    (hnodup : (ms.map Prod.fst).Nodup) (hkeep : ∀ m ∈ ms, keep m = false → m.2 = .null)
    (hperm : (ms.filter keep).Perm ms₁) (hkeys : ms₁.map Prod.fst = ms'.map Prod.fst)
    (hvalues : List.Forall₂ Compacted (ms₁.map Prod.snd) (ms'.map Prod.snd)) :
    (ms'.map Prod.fst).Nodup ∧ ∀ m ∈ ms, Kept ms' m := by
  have hfst : (ms'.map Prod.fst).Perm ((ms.filter keep).map Prod.fst) := by
    rw [← hkeys]
    exact (hperm.map Prod.fst).symm
  refine ⟨hfst.nodup_iff.mpr (hnodup.sublist (List.filter_sublist.map Prod.fst)), fun m hm => ?_⟩
  cases hkept : keep m with
  | true =>
    have hmem : m ∈ ms₁ := hperm.mem_iff.mp (List.mem_filter.mpr ⟨hm, hkept⟩)
    exact Or.inl (Compacted.exists_mem hkeys hvalues hmem)
  | false =>
    refine Or.inr ⟨hkeep m hm hkept, fun hkey => ?_⟩
    obtain ⟨m', hm', hsame⟩ := List.mem_map.mp (hfst.mem_iff.mp hkey)
    obtain ⟨hmem', hkept'⟩ := List.mem_filter.mp hm'
    -- Of one key there is one member, and it is not kept.
    obtain rfl := List.inj_on_of_nodup_map hnodup hmem' hm hsame
    rw [hkept] at hkept'
    exact Bool.false_ne_true hkept'

namespace Record

variable {σ : Type}

/-- Every field is compactable. -/
def FieldsCompactable : {α : Type} → Record σ α → Prop
  | _, .make _ => True
  | _, .snoc r _ _ wire => r.FieldsCompactable ∧ @Compactable _ wire

/-- The members of a value are read back from their compacted form. -/
theorem decodeMembers_of_kept {ms' : List (String × Json)} (hnodup : (ms'.map Prod.fst).Nodup)
    (s : σ) : ∀ {α : Type} (r : Record σ α), r.FieldsCompactable →
      (∀ m ∈ r.members s, Kept ms' m) → r.decodeMembers ms' = some (r.rebuild s)
  | _, .make _, _, _ => rfl
  | _, .snoc r key get wire, hfields, h => by
    obtain ⟨hr, hwire⟩ := hfields
    have hrest := decodeMembers_of_kept hnodup s r hr fun m hm => h m (List.mem_append_left _ hm)
    have hmember : @member _ wire ms' key = some (get s) := by
      rcases h (key, Wire.encode (get s)) (by simp [members]) with ⟨j', hj', hcompacted⟩ |
        ⟨hnull, hmissing⟩
      · rw [member_of_mem hnodup hj']
        exact hwire.decode_eq (get s) hcompacted
      · rw [member_of_not_mem hmissing]
        exact hwire.absent_eq (get s) hnull
    simp only [decodeMembers, hrest, hmember, Option.bind_eq_bind, Option.bind_some, rebuild]
    rfl

/-- A value is read back from every compacted form of its members. -/
theorem decode_of_compacted {α : Type} (r : Record σ α) (hkeys : r.keys.Nodup)
    (hr : r.FieldsCompactable) (s : σ) {j : Json} (h : Compacted (.obj (r.members s)) j) :
    r.decode j = some (r.rebuild s) := by
  cases h with
  | refl => exact decodeMembers_members r hkeys s
  | obj hkeep hperm hkeys' hvalues =>
    have hnodup : ((r.members s).map Prod.fst).Nodup := by rwa [map_fst_members]
    obtain ⟨hnodup', hkept⟩ := kept_of_compacted hnodup hkeep hperm hkeys' hvalues
    exact decodeMembers_of_kept hnodup' s r hr hkept

end Record

/-- A record type whose decoder does not tell the forms of a document apart. -/
class FormFree (σ : Type) [Struct σ] : Prop extends OrderFreeStruct σ where
  compactable : (Struct.record : Record σ σ).FieldsCompactable := by
    repeat' first | exact trivial | infer_instance | apply And.intro

instance {σ : Type} [Struct σ] [FormFree σ] : Compactable σ where
  absent_eq _ h := nomatch h
  decode_eq s _ h := by
    have hread := Record.decode_of_compacted Struct.record Struct.nodup_keys FormFree.compactable
      s h
    rw [Struct.rebuild_eq] at hread
    exact hread

end Serde
