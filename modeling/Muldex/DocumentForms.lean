import Muldex.Acceptance
import Muldex.AdapterFidelity
import Muldex.Cli
import Muldex.Compact
import Muldex.Documents

/-!
# The forms of a document

One value has many documents. The members of its objects can stand in any order, at any
depth (`answers_eq_of_reordered`), those that are `null` can be left out
(`answers_of_compacted`), members under keys nobody knows can be added to the outermost object
(`answers_eq_of_known`), and the fields of a record can be listed in an array in place of
an object (`answers_arr`). The commands answer all of them alike, and exactly which
documents they answer at all is `isSome_answers_iff`.

`MediaSource`, whose variants carry a field, has a decoder of its own. Every other type of
the wire format is a scalar, an enumeration, a list, an option or a record.
-/

namespace Muldex

open Serde

/-! ## Protocol types -/

theorem MediaSource.fieldsOrderFree_payload (key : String) :
    (payload key).FieldsOrderFree :=
  ⟨trivial, inferInstance⟩

/-- A source is never an object of several members, or of none. -/
theorem MediaSource.decode_obj_eq_none {ms : List (String × Json)} (h : ms.length ≠ 1) :
    (Wire.decode (.obj ms) : Option MediaSource) = none := by
  match ms, h with
  | [], _ => rfl
  | [_], h => exact absurd rfl h
  | _ :: _ :: _, _ => rfl

/-- A source is the one-key object of its variant. -/
instance : OrderFree MediaSource where
  decode_eq {j j'} h := by
    cases h with
    | refl => rfl
    | arr => rfl
    | @obj ms ms₁ ms' hperm hkeys hvalues =>
      have hobj := Reordered.obj hperm hkeys hvalues
      by_cases hone : ms.length = 1
      · obtain ⟨⟨tag, body⟩, rfl⟩ := List.length_eq_one_iff.mp hone
        obtain ⟨body', rfl, hbody⟩ := hobj.obj_singleton
        have hpayload (key : String) :=
          (MediaSource.payload key).decode_eq_of_reordered
            (MediaSource.fieldsOrderFree_payload key) hbody
        simp only [Wire.decode, hpayload]
      · rw [MediaSource.decode_obj_eq_none hone,
          MediaSource.decode_obj_eq_none (hobj.length_eq ▸ hone)]

/-- The body of a variant is an object with one member, which is not `null`. -/
instance : Compactable MediaSource where
  absent_eq source h := absurd h (NonNull.encode_ne_null source)
  decode_eq source j h := by
    have hpayload (key value : String) {body : Json}
        (hbody : Compacted (.obj ((MediaSource.payload key).members value)) body) :
        (MediaSource.payload key).decode body = some value :=
      (MediaSource.payload key).decode_of_compacted (List.nodup_singleton key)
        ⟨trivial, inferInstance⟩ value hbody
    cases source <;> obtain ⟨body, rfl, hbody⟩ := Compacted.obj_singleton h nofun <;>
      simp [Wire.decode, hpayload _ _ hbody]

instance : FormFree ContextPressure where

instance : FormFree ProgressSnapshot where

instance : FormFree RecoverySnapshot where

instance : FormFree CheckpointRef where

instance : FormFree SelfCorrectionState where

instance : FormFree PostCompactionState where

instance : FormFree SkillInvocationState where

instance : FormFree RuntimeModeState where

instance : FormFree MediaAssetRef where

instance : FormFree TimeRangeMs where

instance : FormFree DerivedMediaArtifact where

instance : FormFree Hyperframe where

instance : FormFree MediaContextEnvelope where

instance : FormFree PermissionContextSnapshot where

instance : FormFree CodexSessionContinuationSnapshot where

instance : FormFree SessionSurfaceDescriptor where

instance : FormFree AgentModeDescriptor where

instance : FormFree SubagentCapabilityDescriptor where

instance : FormFree ModelCapabilityDescriptor where

instance : FormFree ModelSelectionIntent where

instance : FormFree ModelSelectionRequest where

instance : FormFree ModelSelectionDecision where

instance : FormFree McpCapabilityDescriptor where

instance : FormFree SkillCapabilityDescriptor where

instance : FormFree AgentDataCapabilityDescriptor where

instance : FormFree AsrCapabilityDescriptor where

instance : FormFree AlignmentCapabilityDescriptor where

instance : FormFree GenerativeBackendCapabilityDescriptor where

instance : FormFree CapabilityRegistrySnapshot where

instance : FormFree ContinueRequest where

instance : FormFree ContinueDecision where

instance : FormFree PlannerRequest where

/-! ## Harness contract, snapshots and sidecar -/

instance : FormFree EscalationPolicy where

instance : FormFree ReasoningHarnessRequest where

instance : FormFree ReasoningHarnessDecision where

instance : FormFree CodexSignalSnapshot where

instance : FormFree CodexBootstrapSnapshot where

instance : FormFree CodexLiveContinuationSnapshot where

instance : FormFree AgentlySidecarRequest where

/-! ## Answers -/

/-- The request of a snapshot document, in any order of its members. -/
theorem codexSnapshotRequest_eq_of_reordered {raw raw' : Json} (h : Reordered raw raw') :
    codexSnapshotRequest raw = codexSnapshotRequest raw' := by
  have hsignal : (Wire.decode raw : Option CodexSignalSnapshot) = Wire.decode raw' :=
    OrderFree.decode_eq h
  have hlive : (Wire.decode raw : Option CodexLiveContinuationSnapshot) = Wire.decode raw' :=
    OrderFree.decode_eq h
  have hbootstrap : (Wire.decode raw : Option CodexBootstrapSnapshot) = Wire.decode raw' :=
    OrderFree.decode_eq h
  rw [codexSnapshotRequest, codexSnapshotRequest, hsignal, hlive, hbootstrap]

/-- A value is read back from every reordering of the tree it is written as. -/
theorem decode_of_reordered_encode {α : Type} [Wire α] [OrderFree α] {a : α} {raw : Json}
    (h : Reordered (Wire.encode a) raw) : Wire.decode raw = some a := by
  rw [← OrderFree.decode_eq h, Wire.decode_encode]

/-- What the commands answer to a document they answer to every reordering of it, and what
is written as a document is read back from every reordering of it, at any depth. -/
theorem answers_eq_of_reordered :
    (∀ raw raw' : Json, Reordered raw raw' →
      decideFile raw = decideFile raw' ∧ decideCodexSnapshot raw = decideCodexSnapshot raw') ∧
    (∀ (v : ReasoningHarnessRequest) (raw : Json), Reordered (Wire.encode v) raw →
      Wire.decode raw = some v) ∧
    (∀ (v : CodexSignalSnapshot) (raw : Json), Reordered (Wire.encode v) raw →
      Wire.decode raw = some v) ∧
    (∀ (v : CodexBootstrapSnapshot) (raw : Json), Reordered (Wire.encode v) raw →
      Wire.decode raw = some v) ∧
    (∀ (v : CodexLiveContinuationSnapshot) (raw : Json), Reordered (Wire.encode v) raw →
      Wire.decode raw = some v) ∧
    ∀ (v : AgentlySidecarRequest) (raw : Json), Reordered (Wire.encode v) raw →
      Wire.decode raw = some v := by
  refine ⟨fun raw raw' h => ⟨?_, ?_⟩, fun _ _ => decode_of_reordered_encode,
    fun _ _ => decode_of_reordered_encode, fun _ _ => decode_of_reordered_encode,
    fun _ _ => decode_of_reordered_encode, fun _ _ => decode_of_reordered_encode⟩
  · have hrequest : (Wire.decode raw : Option ReasoningHarnessRequest) = Wire.decode raw' :=
      OrderFree.decode_eq h
    rw [decideFile, decideFile, hrequest]
  · rw [decideCodexSnapshot, decideCodexSnapshot, codexSnapshotRequest_eq_of_reordered h]

/-- A live document with its members in reverse. -/
theorem answers_eq_of_reordered_live :
    decideCodexSnapshot (.obj (Struct.record.members (liveSnapshot 7)).reverse) =
      decideCodexSnapshot (Wire.encode (liveSnapshot 7)) :=
  (answers_eq_of_reordered.1 _ _ (.of_perm (List.reverse_perm _))).2

/-! ## Left-out nulls -/

/-- A compacted snapshot document is read as its own kind. -/
theorem codexSnapshotRequest_of_compacted {σ : Type} [Struct σ] (kind : SnapshotKind)
    (hkind : kind.keys = Struct.keys σ) {snapshot : σ} {raw : Json}
    (h : Compacted (Wire.encode snapshot) raw) : codexSnapshotRequest raw = kind.request raw := by
  obtain ⟨ms', rfl, hsub⟩ := Compacted.exists_obj h
  refine codexSnapshotRequest_of_keys kind fun key hkey => ?_
  rw [hkind]
  exact Struct.mem_keys_of_mem_members snapshot key (hsub key hkey)

/-- Nulls can be left out. What is written as a document is read back from every form of it in
which members that are `null` are left out, and the others stand in any order, at any depth,
and the commands answer such a document as they answer the value. -/
theorem answers_of_compacted :
    (∀ (request : ReasoningHarnessRequest) (raw : Json), Compacted (Wire.encode request) raw →
      Wire.decode raw = some request ∧
        decideFile raw = some (decideReasoningHarness request)) ∧
    (∀ (snapshot : CodexSignalSnapshot) (raw : Json), Compacted (Wire.encode snapshot) raw →
      Wire.decode raw = some snapshot ∧
        codexSnapshotRequest raw = some (codexSnapshotToHarnessRequest snapshot)) ∧
    (∀ (snapshot : CodexLiveContinuationSnapshot) (raw : Json),
      Compacted (Wire.encode snapshot) raw → Wire.decode raw = some snapshot ∧
        codexSnapshotRequest raw = some (codexLiveSnapshotToHarnessRequest snapshot)) ∧
    (∀ (snapshot : CodexBootstrapSnapshot) (raw : Json), Compacted (Wire.encode snapshot) raw →
      Wire.decode raw = some snapshot ∧
        codexSnapshotRequest raw = some (codexBootstrapSnapshotToHarnessRequest snapshot)) ∧
    ∀ (request : AgentlySidecarRequest) (raw : Json), Compacted (Wire.encode request) raw →
      Wire.decode raw = some request := by
  refine ⟨fun request raw h => ?_, fun snapshot raw h => ?_, fun snapshot raw h => ?_,
    fun snapshot raw h => ?_, fun request _ => Compactable.decode_eq request⟩
  · have hread := Compactable.decode_eq request h
    exact ⟨hread, by rw [decideFile, hread, Option.map_some]⟩
  · have hread := Compactable.decode_eq snapshot h
    refine ⟨hread, ?_⟩
    rw [codexSnapshotRequest_of_compacted .signal rfl h, SnapshotKind.request, hread,
      Option.map_some]
  · have hread := Compactable.decode_eq snapshot h
    refine ⟨hread, ?_⟩
    rw [codexSnapshotRequest_of_compacted .live rfl h, SnapshotKind.request, hread,
      Option.map_some]
  · have hread := Compactable.decode_eq snapshot h
    refine ⟨hread, ?_⟩
    rw [codexSnapshotRequest_of_compacted .bootstrap rfl h, SnapshotKind.request, hread,
      Option.map_some]

/-- A live document without the output total it does not know. -/
theorem answers_of_compacted_live :
    Wire.decode (.obj ((Struct.record.members
        { liveSnapshot 7 with totalOutputTokens := none }).filter fun m =>
          m.1 ≠ "total_output_tokens")) =
      some { liveSnapshot 7 with totalOutputTokens := none } :=
  (answers_of_compacted.2.2.1 _ _ (Compacted.of_filter fun m hm hkey => by
    simp only [Struct.record, Record.members, Record.field, Record.of, List.nil_append,
      List.cons_append, List.mem_cons, List.not_mem_nil, or_false] at hm
    rcases hm with rfl | rfl | rfl | rfl | rfl | rfl | rfl | rfl
    all_goals first | rfl | simp at hkey)).1

/-! ## Unknown members -/

/-- Objects with the same known members, in whatever order, are read alike. -/
theorem decode_eq_of_known_perm {σ : Type} [Struct σ] [OrderFreeStruct σ]
    {ms ms' : List (String × Json)} (h : (Struct.known σ ms).Perm (Struct.known σ ms')) :
    (Wire.decode (.obj ms) : Option σ) = Wire.decode (.obj ms') := by
  rw [← Struct.decode_known ms, ← Struct.decode_known ms']
  exact OrderFree.decode_eq (Reordered.of_perm h)

/-- The keys of the three kinds of snapshot. -/
def snapshotKeys : List String :=
  SnapshotKind.signal.keys ++ SnapshotKind.live.keys ++ SnapshotKind.bootstrap.keys

/-- Members that agree on more keys agree on the keys of a type. -/
theorem known_perm_of_subset {σ : Type} [Struct σ] {keys : List String}
    (hkeys : Struct.keys σ ⊆ keys) {ms ms' : List (String × Json)}
    (h : (ms.filter fun m => m.1 ∈ keys).Perm (ms'.filter fun m => m.1 ∈ keys)) :
    (Struct.known σ ms).Perm (Struct.known σ ms') := by
  have hknown (ms : List (String × Json)) :
      ((ms.filter fun m => m.1 ∈ keys).filter fun m => m.1 ∈ Struct.keys σ) =
        Struct.known σ ms := by
    rw [List.filter_filter, Struct.known]
    refine List.filter_congr fun m _ => ?_
    rw [Bool.eq_iff_iff]
    simp only [Bool.and_eq_true, decide_eq_true_eq]
    exact and_iff_left_of_imp fun hm => hkeys hm
  rw [← hknown ms, ← hknown ms']
  exact h.filter _

/-- What nobody knows is ignored at the top of a document. Whatever members are added to its
object, dropped from it or moved within it, `decide-file` answers alike as long as the members
under the sections of a request are the same, and `decide-codex-snapshot` as long as those
under the keys of the three kinds are. -/
theorem answers_eq_of_known :
    (∀ ms ms' : List (String × Json), (Struct.known ReasoningHarnessRequest ms).Perm
        (Struct.known ReasoningHarnessRequest ms') →
      decideFile (.obj ms) = decideFile (.obj ms')) ∧
    ∀ ms ms' : List (String × Json), (ms.filter fun m => m.1 ∈ snapshotKeys).Perm
        (ms'.filter fun m => m.1 ∈ snapshotKeys) →
      decideCodexSnapshot (.obj ms) = decideCodexSnapshot (.obj ms') := by
  refine ⟨fun ms ms' h => ?_, fun ms ms' h => ?_⟩
  · have hrequest : (Wire.decode (.obj ms) : Option ReasoningHarnessRequest) =
        Wire.decode (.obj ms') := decode_eq_of_known_perm h
    rw [decideFile, decideFile, hrequest]
  · have hsignal : (Wire.decode (.obj ms) : Option CodexSignalSnapshot) = Wire.decode (.obj ms') :=
      decode_eq_of_known_perm (known_perm_of_subset (fun _ hk => by
        simp only [snapshotKeys, List.mem_append]
        exact Or.inl (Or.inl hk)) h)
    have hlive : (Wire.decode (.obj ms) : Option CodexLiveContinuationSnapshot) =
        Wire.decode (.obj ms') :=
      decode_eq_of_known_perm (known_perm_of_subset (fun _ hk => by
        simp only [snapshotKeys, List.mem_append]
        exact Or.inl (Or.inr hk)) h)
    have hbootstrap : (Wire.decode (.obj ms) : Option CodexBootstrapSnapshot) =
        Wire.decode (.obj ms') :=
      decode_eq_of_known_perm (known_perm_of_subset (fun _ hk => by
        simp only [snapshotKeys, List.mem_append]
        exact Or.inr hk) h)
    rw [decideCodexSnapshot, decideCodexSnapshot, codexSnapshotRequest, codexSnapshotRequest,
      hsignal, hlive, hbootstrap]

/-- A comment in front of a request, and one in front of a snapshot. -/
theorem answers_eq_of_known_comment :
    decideFile (.obj (("comment", .null) :: Struct.record.members healthyRequest)) =
        decideFile (Wire.encode healthyRequest) ∧
      decideCodexSnapshot (.obj (("comment", .null) :: Struct.record.members (liveSnapshot 7))) =
        decideCodexSnapshot (Wire.encode (liveSnapshot 7)) := by
  refine ⟨answers_eq_of_known.1 _ _ (.of_eq ?_), answers_eq_of_known.2 _ _ (.of_eq ?_)⟩
  · rw [Struct.known, List.filter_cons_of_neg (by decide)]
    rfl
  · rw [List.filter_cons_of_neg (by decide)]

/-! ## Arrays -/

namespace SnapshotKind

/-- A kind reads an array as the object of its keys. -/
theorem request_arr (kind : SnapshotKind) (elems : List Json) :
    kind.request (.arr elems) =
      if elems.length = kind.keys.length then kind.request (.obj (kind.keys.zip elems))
      else none := by
  cases kind <;>
    exact (congrArg (Option.map _) (Struct.decode_arr elems)).trans (apply_ite (Option.map _) _ _ _)

/-- The kinds have different numbers of keys. -/
theorem length_keys_ne {kind other : SnapshotKind} (h : other ≠ kind) :
    other.keys.length ≠ kind.keys.length := by
  cases kind <;> cases other <;> first | exact absurd rfl h | decide

end SnapshotKind

/-- The chain reads an array of as many elements as a kind has keys as that kind. -/
theorem codexSnapshotRequest_arr (kind : SnapshotKind) {elems : List Json}
    (h : elems.length = kind.keys.length) :
    codexSnapshotRequest (.arr elems) = kind.request (.obj (kind.keys.zip elems)) := by
  have hown : kind.request (.arr elems) = kind.request (.obj (kind.keys.zip elems)) := by
    rw [SnapshotKind.request_arr, if_pos h]
  have hother (other : SnapshotKind) (hne : other ≠ kind) : other.request (.arr elems) = none := by
    rw [SnapshotKind.request_arr, if_neg (h ▸ (SnapshotKind.length_keys_ne hne).symm)]
  rw [codexSnapshotRequest_eq_orElse, ← hown]
  cases kind with
  | signal => simp [hother .live nofun, hother .bootstrap nofun]
  | live => simp [hother .signal nofun, hother .bootstrap nofun]
  | bootstrap => simp [hother .signal nofun, hother .live nofun]

/-- Documents can list fields by position. `decide-file` reads an array as the object that
pairs the sections, in order, with its elements, and rejects it if they are not as many.
The snapshot chain knows the kind of an array by its length alone, and rejects every other
length. So the array of a value's fields reaches the adapter of its own kind. -/
theorem answers_arr :
    (∀ elems : List Json, decideFile (.arr elems) =
      if elems.length = (Struct.keys ReasoningHarnessRequest).length then
        decideFile (.obj ((Struct.keys ReasoningHarnessRequest).zip elems))
      else none) ∧
    (∀ (kind : SnapshotKind) (elems : List Json), elems.length = kind.keys.length →
      codexSnapshotRequest (.arr elems) = kind.request (.obj (kind.keys.zip elems))) ∧
    (∀ elems : List Json, (∀ kind : SnapshotKind, elems.length ≠ kind.keys.length) →
      codexSnapshotRequest (.arr elems) = none) ∧
    (∀ request : ReasoningHarnessRequest,
      decideFile (.arr (Struct.fields request)) = some (decideReasoningHarness request)) ∧
    (∀ snapshot : CodexSignalSnapshot, codexSnapshotRequest (.arr (Struct.fields snapshot)) =
      some (codexSnapshotToHarnessRequest snapshot)) ∧
    (∀ snapshot : CodexLiveContinuationSnapshot,
      codexSnapshotRequest (.arr (Struct.fields snapshot)) =
        some (codexLiveSnapshotToHarnessRequest snapshot)) ∧
    ∀ snapshot : CodexBootstrapSnapshot,
      codexSnapshotRequest (.arr (Struct.fields snapshot)) =
        some (codexBootstrapSnapshotToHarnessRequest snapshot) := by
  refine ⟨fun elems => ?_, fun kind _ => codexSnapshotRequest_arr kind, fun elems h => ?_,
    fun request => ?_, fun s => ?_, fun s => ?_, fun s => ?_⟩
  · rw [decideFile, Struct.decode_arr, apply_ite (Option.map _)]
    rfl
  · rw [codexSnapshotRequest_eq_orElse, SnapshotKind.request_arr, SnapshotKind.request_arr,
      SnapshotKind.request_arr, if_neg (h .signal), if_neg (h .live), if_neg (h .bootstrap)]
    rfl
  · rw [decideFile, Struct.decode_fields, Option.map_some]
  · rw [codexSnapshotRequest_arr .signal (Struct.length_fields s), SnapshotKind.keys,
      Struct.zip_fields, ← Struct.encode_eq, SnapshotKind.request, Wire.decode_encode,
      Option.map_some]
  · rw [codexSnapshotRequest_arr .live (Struct.length_fields s), SnapshotKind.keys,
      Struct.zip_fields, ← Struct.encode_eq, SnapshotKind.request, Wire.decode_encode,
      Option.map_some]
  · rw [codexSnapshotRequest_arr .bootstrap (Struct.length_fields s), SnapshotKind.keys,
      Struct.zip_fields, ← Struct.encode_eq, SnapshotKind.request, Wire.decode_encode,
      Option.map_some]

/-- The fields of a live snapshot are read as one, and an empty array as no snapshot. -/
theorem answers_arr_live :
    codexSnapshotRequest (.arr (Struct.fields (liveSnapshot 7))) =
        SnapshotKind.live.request
          (.obj (SnapshotKind.live.keys.zip (Struct.fields (liveSnapshot 7)))) ∧
      codexSnapshotRequest (.arr []) = none :=
  ⟨answers_arr.2.1 .live _ (Struct.length_fields _),
    answers_arr.2.2.1 [] fun kind => by cases kind <;> decide⟩

/-! ## Which documents are answered -/

/-- Exactly which documents the commands answer : `decide-file` the acceptable ones of a
request, and `decide-codex-snapshot` those of some kind of snapshot. -/
theorem isSome_answers_iff (raw : Json) :
    ((decideFile raw).isSome = true ↔ Struct.Acceptable ReasoningHarnessRequest raw) ∧
      ((decideCodexSnapshot raw).isSome = true ↔
        Struct.Acceptable CodexSignalSnapshot raw ∨
          Struct.Acceptable CodexLiveContinuationSnapshot raw ∨
          Struct.Acceptable CodexBootstrapSnapshot raw) := by
  simp only [← Struct.isSome_decode_iff]
  constructor
  · rw [decideFile, Option.isSome_map]
  · rw [decideCodexSnapshot, Option.isSome_map, codexSnapshotRequest_eq_orElse]
    simp [SnapshotKind.request, Option.isSome_or]

/-- Under `progress` a request accepts what the progress decoder accepts. -/
example (j : Json) : Struct.Accepts ReasoningHarnessRequest "progress" j ↔
    (Wire.decode j : Option ProgressSnapshot).isSome = true := by
  simp [Struct.Accepts, Struct.record, Record.Accepts, Record.field, Record.of]

end Muldex
