import Muldex.WireFormat
import Muldex.Workspace

/-!
# Request documents

`decide-file` reads a harness request from a file. Of the seventeen sections of a request
the decoder requires all but two, the last checkpoint and the continuation record, and
some of a request's sections are read exactly when the required ones are among them
(`isSome_decideFile_select_iff`).

The example files were written before the request had all its sections. They carry
thirteen, and leave out three that are required : such a document is never read
(`decideFile_exampleSections`).
-/

namespace Muldex

open Serde

/-- `decide-file` : the decision on a request document. -/
def decideFile (raw : Json) : Option ReasoningHarnessDecision :=
  (Wire.decode raw : Option ReasoningHarnessRequest).map decideReasoningHarness

/-- The sections of the example files. -/
def exampleSections : List String :=
  ["objective", "constraints", "evidence_scope", "allowed_capability_classes",
   "prohibited_behaviors", "progress", "recovery", "last_checkpoint", "self_correction",
   "context_pressure", "media_context", "capability_registry", "escalation_policy"]

/-- The sections that are required and that the example files leave out. -/
def omittedSections : List String :=
  ["post_compaction", "runtime_mode", "safety"]

/-- The sections of a request under some names are read, and decided, exactly when the
required ones are among them. -/
theorem isSome_decideFile_select_iff (names : List String) (request : ReasoningHarnessRequest) :
    (decideFile (.obj (Struct.select names request))).isSome = true ↔
      ∀ key ∈ Struct.required ReasoningHarnessRequest, key ∈ names := by
  rw [decideFile, Option.isSome_map]
  exact Struct.isSome_decode_select_iff names request

/-- With the omitted sections, the sections of the example files are read. -/
theorem isSome_decideFile_completed (request : ReasoningHarnessRequest) :
    (decideFile (.obj (Struct.select (exampleSections ++ omittedSections) request))).isSome =
      true := by
  rw [isSome_decideFile_select_iff]
  decide

/-- A document that holds exactly the sections of the example files is not read, whatever
the sections hold and in whichever order they stand. -/
theorem decideFile_exampleSections {ms : List (String × Json)}
    (hms : (ms.map Prod.fst).Perm exampleSections) : decideFile (.obj ms) = none := by
  have hread : (Wire.decode (.obj ms) : Option ReasoningHarnessRequest) = none :=
    Struct.decode_eq_none (fun _ hkey => hms.mem_iff.mp hkey)
      (show "safety" ∉ exampleSections by decide) (by decide)
  rw [decideFile, hread, Option.map_none]

/-- `no-progress.json` is not read. -/
theorem decideFile_exampleSections_noProgress :
    decideFile (.obj (Struct.select exampleSections (sampleRequest .noProgress))) = none := by
  have hkeys : (Struct.select exampleSections (sampleRequest .noProgress)).map Prod.fst =
      exampleSections := by
    rw [Struct.map_fst_select]
    decide
  exact decideFile_exampleSections (.of_eq hkeys)

/-- Not every request is read from its sections of the example files. -/
theorem not_forall_isSome_decideFile : ¬∀ request : ReasoningHarnessRequest,
    (decideFile (.obj (Struct.select exampleSections request))).isSome = true := by
  intro h
  have hrequired := (isSome_decideFile_select_iff _ _).mp (h (sampleRequest .noProgress))
  exact absurd (hrequired "safety" (by decide)) (by decide)

end Muldex
