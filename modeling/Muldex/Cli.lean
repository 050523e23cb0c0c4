import Muldex.WireFormat

/-!
# The snapshot command

`decide-codex-snapshot` is not told which kind of snapshot it reads. It tries the
signal decoder, then the live one, then the bootstrap one, and only the last one's
error is reported.

The three formats overlap, unknown keys are ignored and optional keys may be missing,
so a document could be read as another kind. It is not, since each kind requires a key
that the other two do not have (`SnapshotKind.marker`) : a document that has only keys
of one kind is rejected by the decoders of the others, damaged or not.

What the command prints is in `Muldex.Commands`.
-/

namespace Muldex

open Serde

/-- The harness request of a snapshot document. -/
def codexSnapshotRequest (raw : Json) : Option ReasoningHarnessRequest :=
  match (Wire.decode raw : Option CodexSignalSnapshot) with
  | some snapshot => some (codexSnapshotToHarnessRequest snapshot)
  | none =>
    match (Wire.decode raw : Option CodexLiveContinuationSnapshot) with
    | some live => some (codexLiveSnapshotToHarnessRequest live)
    | none =>
      (Wire.decode raw : Option CodexBootstrapSnapshot).map codexBootstrapSnapshotToHarnessRequest

/-- `decide-codex-snapshot` : the decision on a snapshot document. -/
def decideCodexSnapshot (raw : Json) : Option ReasoningHarnessDecision :=
  (codexSnapshotRequest raw).map decideReasoningHarness

/-! ## Kinds of snapshot -/

/-- The kinds of snapshot document. -/
inductive SnapshotKind where
  | signal
  | live
  | bootstrap

namespace SnapshotKind

/-- The keys of a kind. -/
def keys : SnapshotKind → List String
  | signal => Struct.keys CodexSignalSnapshot
  | live => Struct.keys CodexLiveContinuationSnapshot
  | bootstrap => Struct.keys CodexBootstrapSnapshot

/-- The keys a kind requires. -/
def required : SnapshotKind → List String
  | signal => Struct.required CodexSignalSnapshot
  | live => Struct.required CodexLiveContinuationSnapshot
  | bootstrap => Struct.required CodexBootstrapSnapshot

/-- The kind's own adapter applied to the kind's own decoding. -/
def request : SnapshotKind → Json → Option ReasoningHarnessRequest
  | signal, raw => (Wire.decode raw).map codexSnapshotToHarnessRequest
  | live, raw => (Wire.decode raw).map codexLiveSnapshotToHarnessRequest
  | bootstrap, raw => (Wire.decode raw).map codexBootstrapSnapshotToHarnessRequest

/-- A required key of the kind that no other kind has. -/
def marker : SnapshotKind → String
  | signal => "objective"
  | live => "active_turn_present"
  | bootstrap => "cwd"

theorem marker_mem_required (kind : SnapshotKind) : kind.marker ∈ kind.required := by
  cases kind <;> decide

theorem marker_not_mem_keys {kind other : SnapshotKind} (h : kind ≠ other) :
    kind.marker ∉ other.keys := by
  cases kind <;> cases other <;> first | exact absurd rfl h | decide

/-- A document with only the keys of one kind is not read as another. -/
theorem request_eq_none_of_ne {kind other : SnapshotKind} (h : other ≠ kind)
    {ms : List (String × Json)} (hms : ∀ key ∈ ms.map Prod.fst, key ∈ kind.keys) :
    other.request (.obj ms) = none := by
  have hkey := marker_not_mem_keys h
  have hreq := marker_mem_required other
  cases other <;> rw [request, Struct.decode_eq_none hms hkey hreq, Option.map_none]

end SnapshotKind

/-- The command tries the kinds in this order. -/
theorem codexSnapshotRequest_eq_orElse (raw : Json) :
    codexSnapshotRequest raw = (SnapshotKind.signal.request raw).or
      ((SnapshotKind.live.request raw).or (SnapshotKind.bootstrap.request raw)) := by
  unfold codexSnapshotRequest
  cases hs : (Wire.decode raw : Option CodexSignalSnapshot) with
  | some snapshot => simp [SnapshotKind.request, hs]
  | none =>
    cases hl : (Wire.decode raw : Option CodexLiveContinuationSnapshot) <;>
      simp [SnapshotKind.request, hs, hl]

/-- A document with only the keys of one kind is read as that kind or not at all. -/
theorem codexSnapshotRequest_of_keys (kind : SnapshotKind) {ms : List (String × Json)}
    (hms : ∀ key ∈ ms.map Prod.fst, key ∈ kind.keys) :
    codexSnapshotRequest (.obj ms) = kind.request (.obj ms) := by
  have hother (other : SnapshotKind) (h : other ≠ kind) :=
    SnapshotKind.request_eq_none_of_ne h hms
  rw [codexSnapshotRequest_eq_orElse]
  cases kind with
  | signal => simp [hother .live nofun, hother .bootstrap nofun]
  | live => simp [hother .signal nofun, hother .bootstrap nofun]
  | bootstrap => simp [hother .signal nofun, hother .live nofun]

/-- The decoder chain never mistakes one kind for another. On an object that has only
keys of one kind, whatever their values and whichever are missing, it does what the
decoder and the adapter of that kind do. The encoding of every snapshot reaches the
adapter of its own kind. -/
theorem codexSnapshotRequest_own_kind :
    (∀ (kind : SnapshotKind) (ms : List (String × Json)),
      (∀ key ∈ ms.map Prod.fst, key ∈ kind.keys) →
        codexSnapshotRequest (.obj ms) = kind.request (.obj ms)) ∧
    (∀ snapshot : CodexSignalSnapshot, codexSnapshotRequest (Wire.encode snapshot) =
      some (codexSnapshotToHarnessRequest snapshot)) ∧
    (∀ snapshot : CodexLiveContinuationSnapshot, codexSnapshotRequest (Wire.encode snapshot) =
      some (codexLiveSnapshotToHarnessRequest snapshot)) ∧
    ∀ snapshot : CodexBootstrapSnapshot, codexSnapshotRequest (Wire.encode snapshot) =
      some (codexBootstrapSnapshotToHarnessRequest snapshot) := by
  refine ⟨fun kind ms => codexSnapshotRequest_of_keys kind, fun s => ?_, fun s => ?_, fun s => ?_⟩
  · rw [Struct.encode_eq, codexSnapshotRequest_of_keys .signal (Struct.mem_keys_of_mem_members s),
      ← Struct.encode_eq, SnapshotKind.request, Wire.decode_encode, Option.map_some]
  · rw [Struct.encode_eq, codexSnapshotRequest_of_keys .live (Struct.mem_keys_of_mem_members s),
      ← Struct.encode_eq, SnapshotKind.request, Wire.decode_encode, Option.map_some]
  · rw [Struct.encode_eq,
      codexSnapshotRequest_of_keys .bootstrap (Struct.mem_keys_of_mem_members s),
      ← Struct.encode_eq, SnapshotKind.request, Wire.decode_encode, Option.map_some]

/-- A signal document cut down to two keys is an error, not a live or bootstrap snapshot. -/
theorem codexSnapshotRequest_own_kind_damaged :
    codexSnapshotRequest (.obj [("thread_id", .str "thread-1"), ("turn_id", .int 9)]) =
      SnapshotKind.signal.request (.obj [("thread_id", .str "thread-1"), ("turn_id", .int 9)]) :=
  codexSnapshotRequest_own_kind.1 .signal _ (by decide)

end Muldex
