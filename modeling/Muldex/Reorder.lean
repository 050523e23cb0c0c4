import Mathlib.Data.List.Forall2
import Muldex.Record

/-!
# Documents up to the order of their members

The members of an object have no order that means anything. `Reordered j j'` says that two
trees differ in that order alone, at any depth, and `OrderFree α` that the decoder of `α`
does not tell such trees apart.

Every decoder of the wire format is order free. The scalars accept no tree with an order,
options and lists hand it down, and a record looks each of its keys up among all members
(`Record.decodeMembers_eq_of_reordered`). A record type is order free as soon as its fields
are (`OrderFreeStruct`).

The elements of an array do have an order, and `Reordered` keeps it.
-/

namespace Serde

/-- The trees are equal up to the order of the members of their objects, at any depth. -/
inductive Reordered : Json → Json → Prop
  | refl (j : Json) : Reordered j j
  | arr {elems elems' : List Json} (helems : List.Forall₂ Reordered elems elems') :
    Reordered (.arr elems) (.arr elems')
  | obj {ms ms₁ ms' : List (String × Json)} (hperm : ms.Perm ms₁)
    (hkeys : ms₁.map Prod.fst = ms'.map Prod.fst)
    (hvalues : List.Forall₂ Reordered (ms₁.map Prod.snd) (ms'.map Prod.snd)) :
    Reordered (.obj ms) (.obj ms')

/-- Members in another order. -/
theorem Reordered.of_perm {ms ms' : List (String × Json)} (h : ms.Perm ms') :
    Reordered (.obj ms) (.obj ms') :=
  .obj h rfl (List.forall₂_same.mpr fun j _ => .refl j)

/-- The decoder does not depend on the order of members. -/
class OrderFree (α : Type) [Wire α] : Prop where
  decode_eq : ∀ {j j' : Json}, Reordered j j' → (Wire.decode j : Option α) = Wire.decode j'

variable {α : Type}

/-! ## Members -/

/-- The members of reordered objects under one key. -/
theorem Reordered.filter_key {ms ms' : List (String × Json)} (key : String)
    (hkeys : ms.map Prod.fst = ms'.map Prod.fst)
    (hvalues : List.Forall₂ Reordered (ms.map Prod.snd) (ms'.map Prod.snd)) :
    List.Forall₂ Reordered ((ms.filter fun m => m.1 = key).map Prod.snd)
      ((ms'.filter fun m => m.1 = key).map Prod.snd) := by
  induction ms generalizing ms' with
  | nil =>
    obtain rfl := List.map_eq_nil_iff.mp hkeys.symm
    exact .nil
  | cons m ms ih =>
    cases ms' with
    | nil => cases hkeys
    | cons m' ms' =>
      rw [List.map_cons, List.map_cons, List.cons.injEq] at hkeys
      rw [List.map_cons, List.map_cons, List.forall₂_cons] at hvalues
      have hrest := ih hkeys.2 hvalues.2
      by_cases hkey : m.1 = key
      · rw [List.filter_cons_of_pos (by simpa using hkey),
          List.filter_cons_of_pos (by simpa [← hkeys.1] using hkey)]
        exact .cons hvalues.1 hrest
      · rw [List.filter_cons_of_neg (by simpa using hkey),
          List.filter_cons_of_neg (by simpa [← hkeys.1] using hkey)]
        exact hrest

/-- A member, from the values under its key. -/
theorem member_eq_match [Wire α] (ms : List (String × Json)) (key : String) :
    (member ms key : Option α) = match (ms.filter fun m => m.1 = key).map Prod.snd with
      | [] => Wire.absent
      | [j] => Wire.decode j
      | _ => none := by
  unfold member
  cases ms.filter fun m => m.1 = key with
  | nil => rfl
  | cons m rest => cases rest <;> rfl

/-- An order free member is the same in reordered objects. -/
theorem member_eq_of_reordered [Wire α] [OrderFree α] {ms ms₁ ms' : List (String × Json)}
    (key : String) (hperm : ms.Perm ms₁) (hkeys : ms₁.map Prod.fst = ms'.map Prod.fst)
    (hvalues : List.Forall₂ Reordered (ms₁.map Prod.snd) (ms'.map Prod.snd)) :
    (member ms key : Option α) = member ms' key := by
  have hvalues' := Reordered.filter_key key hkeys hvalues
  have hperm' := (hperm.filter fun m => m.1 = key).map Prod.snd
  rw [member_eq_match, member_eq_match]
  generalize (ms.filter fun m => m.1 = key).map Prod.snd = values at hperm' ⊢
  generalize (ms₁.filter fun m => m.1 = key).map Prod.snd = values₁ at hperm' hvalues'
  generalize (ms'.filter fun m => m.1 = key).map Prod.snd = values' at hvalues' ⊢
  cases hvalues' with
  | nil => rw [List.Perm.eq_nil hperm']
  | cons hhead htail =>
    cases htail with
    | nil =>
      rw [List.perm_singleton.mp hperm']
      exact OrderFree.decode_eq hhead
    | cons =>
      -- Two members of one key, in whichever order.
      have hlength := hperm'.length_eq
      match values, hlength with
      | _ :: _ :: _, _ => rfl

/-! ## Scalars, options and lists -/

/-- A decoder that accepts neither arrays nor objects. -/
theorem OrderFree.of_scalar [Wire α] (harr : ∀ elems, (Wire.decode (.arr elems) : Option α) = none)
    (hobj : ∀ ms, (Wire.decode (.obj ms) : Option α) = none) : OrderFree α where
  decode_eq := by
    rintro j j' (_ | _ | _)
    · rfl
    · rw [harr, harr]
    · rw [hobj, hobj]

instance : OrderFree Bool := .of_scalar (fun _ => rfl) fun _ => rfl

instance : OrderFree String := .of_scalar (fun _ => rfl) fun _ => rfl

instance : OrderFree UInt32 := .of_scalar (fun _ => rfl) fun _ => rfl

instance : OrderFree UInt64 := .of_scalar (fun _ => rfl) fun _ => rfl

instance : OrderFree USize := .of_scalar (fun _ => rfl) fun _ => rfl

instance : OrderFree Int64 := .of_scalar (fun _ => rfl) fun _ => rfl

instance [Wire α] [NonNull α] [OrderFree α] : OrderFree (Option α) where
  decode_eq {j j'} h := by
    have hdecode : (Wire.decode j : Option α) = Wire.decode j' := OrderFree.decode_eq h
    change decodeOption j = decodeOption j'
    cases h with
    | refl => rfl
    | arr => exact congrArg (Option.map some) hdecode
    | obj => exact congrArg (Option.map some) hdecode

/-- Reordered elements are decoded alike. -/
theorem mapM_decode_eq_of_forall₂ [Wire α] [OrderFree α] {elems elems' : List Json}
    (h : List.Forall₂ Reordered elems elems') :
    (elems.mapM Wire.decode : Option (List α)) = elems'.mapM Wire.decode := by
  induction h with
  | nil => rfl
  | cons hhead _ ih => rw [List.mapM_cons, List.mapM_cons, OrderFree.decode_eq hhead, ih]

instance [Wire α] [OrderFree α] : OrderFree (List α) where
  decode_eq {j j'} h := by
    cases h with
    | refl => rfl
    | arr helems => exact mapM_decode_eq_of_forall₂ helems
    | obj => rfl

/-! ## Objects of one member -/

/-- An object of one member has no other order. -/
theorem Reordered.obj_singleton {key : String} {j : Json} {ms' : List (String × Json)}
    (h : Reordered (.obj [(key, j)]) (.obj ms')) : ∃ j', ms' = [(key, j')] ∧ Reordered j j' := by
  cases h with
  | refl => exact ⟨j, rfl, .refl j⟩
  | obj hperm hkeys hvalues =>
    obtain rfl := List.singleton_perm.mp hperm
    obtain ⟨⟨key', j'⟩, rfl, hkey⟩ := List.map_eq_singleton_iff.mp hkeys.symm
    obtain rfl : key' = key := hkey
    exact ⟨j', rfl, (List.forall₂_cons.mp hvalues).1⟩

theorem Reordered.length_eq {ms ms' : List (String × Json)}
    (h : Reordered (.obj ms) (.obj ms')) : ms.length = ms'.length := by
  cases h with
  | refl => rfl
  | obj hperm hkeys _ =>
    have hlength := congrArg List.length hkeys
    rw [List.length_map, List.length_map] at hlength
    exact hperm.length_eq.trans hlength

/-- A variant is never an object of several members, or of none. -/
theorem Variants.decode_obj_eq_none [Variants α] {ms : List (String × Json)}
    (h : ms.length ≠ 1) : (Wire.decode (.obj ms) : Option α) = none := by
  match ms, h with
  | [], _ => rfl
  | [_], h => exact absurd rfl h
  | (_, value) :: _ :: _, _ => cases value <;> rfl

/-- A variant without fields is its name, or the one-key object of its name. -/
instance [Variants α] : OrderFree α where
  decode_eq {j j'} h := by
    cases h with
    | refl => rfl
    | arr => rfl
    | @obj ms ms₁ ms' hperm hkeys hvalues =>
      have hobj := Reordered.obj hperm hkeys hvalues
      by_cases hone : ms.length = 1
      · obtain ⟨⟨key, value⟩, rfl⟩ := List.length_eq_one_iff.mp hone
        obtain ⟨value', rfl, hvalue⟩ := hobj.obj_singleton
        cases hvalue <;> rfl
      · rw [Variants.decode_obj_eq_none hone,
          Variants.decode_obj_eq_none (hobj.length_eq ▸ hone)]

/-! ## Records -/

namespace Record

variable {σ : Type}

/-- Every field is order free. -/
def FieldsOrderFree : {α : Type} → Record σ α → Prop
  | _, .make _ => True
  | _, .snoc r _ _ wire => r.FieldsOrderFree ∧ @OrderFree _ wire

/-- The members of an object are read alike in any order. -/
theorem decodeMembers_eq_of_reordered {ms ms₁ ms' : List (String × Json)} (hperm : ms.Perm ms₁)
    (hkeys : ms₁.map Prod.fst = ms'.map Prod.fst)
    (hvalues : List.Forall₂ Reordered (ms₁.map Prod.snd) (ms'.map Prod.snd)) :
    ∀ {α : Type} (r : Record σ α), r.FieldsOrderFree → r.decodeMembers ms = r.decodeMembers ms'
  | _, .make _, _ => rfl
  | _, .snoc r key _ wire, h => by
    obtain ⟨hr, hwire⟩ := h
    have hmember := @member_eq_of_reordered _ wire hwire _ _ _ key hperm hkeys hvalues
    rw [decodeMembers, decodeMembers, decodeMembers_eq_of_reordered hperm hkeys hvalues r hr,
      hmember]

/-- What is read from the front of reordered elements is the same, and what is left over is
reordered. -/
theorem decodeElems_rel_of_forall₂ {elems elems' : List Json}
    (h : List.Forall₂ Reordered elems elems') :
    ∀ {α : Type} (r : Record σ α), r.FieldsOrderFree →
      Option.Rel (fun p p' => p.1 = p'.1 ∧ List.Forall₂ Reordered p.2 p'.2)
        (r.decodeElems elems) (r.decodeElems elems')
  | _, .make _, _ => .some ⟨rfl, h⟩
  | _, .snoc r _ _ wire, hfields => by
    obtain ⟨hr, hwire⟩ := hfields
    have hfront := decodeElems_rel_of_forall₂ h r hr
    simp only [decodeElems]
    generalize r.decodeElems elems = front at hfront ⊢
    generalize r.decodeElems elems' = front' at hfront ⊢
    cases hfront with
    | none => exact .none
    | @some p p' hp =>
      obtain ⟨build, rest⟩ := p
      obtain ⟨build', rest'⟩ := p'
      obtain ⟨rfl, hrest⟩ := hp
      cases hrest with
      | nil => exact .none
      | @cons elem elem' rest rest' hhead htail =>
        have hvalue := @OrderFree.decode_eq _ wire hwire _ _ hhead
        simp only [Option.bind_eq_bind, Option.bind_some, hvalue]
        cases @Wire.decode _ wire elem' with
        | none => exact .none
        | some value => exact .some ⟨rfl, htail⟩

/-- A record with order free fields is read alike from reordered trees. -/
theorem decode_eq_of_reordered {α : Type} (r : Record σ α) (hr : r.FieldsOrderFree) {j j' : Json}
    (h : Reordered j j') : r.decode j = r.decode j' := by
  cases h with
  | refl => rfl
  | arr helems =>
    have hfront := decodeElems_rel_of_forall₂ helems r hr
    simp only [decode]
    generalize r.decodeElems _ = front at hfront ⊢
    generalize r.decodeElems _ = front' at hfront ⊢
    cases hfront with
    | none => rfl
    | @some p p' hp =>
      obtain ⟨a, rest⟩ := p
      obtain ⟨a', rest'⟩ := p'
      obtain ⟨rfl, hrest⟩ := hp
      cases hrest <;> rfl
  | obj hperm hkeys hvalues => exact decodeMembers_eq_of_reordered hperm hkeys hvalues r hr

end Record

/-- A record type with order free fields. -/
class OrderFreeStruct (σ : Type) [Struct σ] : Prop where
  fields : (Struct.record : Record σ σ).FieldsOrderFree := by
    repeat' first | exact trivial | infer_instance | apply And.intro

instance {σ : Type} [Struct σ] [OrderFreeStruct σ] : OrderFree σ where
  decode_eq h := Record.decode_eq_of_reordered _ OrderFreeStruct.fields h

end Serde
