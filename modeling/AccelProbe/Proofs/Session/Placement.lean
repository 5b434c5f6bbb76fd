import AccelProbe.Proofs.Section.Placement
import AccelProbe.Proofs.Session.Sequence

/-!
# Where the tensors of a session were found

A session with TensorFlow says that a tensor could be used on the accelerator only where one was found there. It holds of the
question itself, of the sections that ask it in whatever world, and of the stages of every session.
-/

namespace AccelProbe

namespace Session

open Program Section

/-- A stage over TensorFlow follows the checks of the tensors that it moves. -/
theorem Stage.guarded {stage : Stage} {c : Configuration} {env : Environment} {version : Value} {h : History TensorFlowCall}
    {r : Except Failure Report} (ht : (stage.program c env (TensorFlow.backend version)).Trace h r) :
    Guarded c.deviceIndex h r := by
  cases stage with
  | diagnostic =>
    obtain ⟨x, hx, rfl⟩ := trace_bind_done ht
    exact (Diagnostic.guarded_of_trace hx).map _
  | environment =>
    obtain ⟨x, hx, rfl⟩ := trace_bind_done ht
    exact (Environment.guarded_of_trace hx).map _
  | compute =>
    obtain ⟨x, hx, rfl⟩ := trace_bind_done ht
    exact (Compute.guarded_of_trace hx).map _

/-- A tensor is said to be usable on the accelerator of TensorFlow only where it was found there.

The question for a tensor on the accelerator is `Checked` in every world and after every history. So the diagnostic section and the
compute section are `Guarded`, and so is every stage of a session that loads TensorFlow: a line of success stands after a check that
found a tensor on the configured device, and a check that found something else is the end of the section but for one record. -/
theorem placement :
    (∀ (w : World TensorFlowCall) (before : History TensorFlowCall) (version tensor index : Value),
      ∃ added, ((TensorFlow.perform version (.toAccelerator tensor index)).run w before).1 = before ++ added ∧
        TensorFlow.Checked tensor index added ((TensorFlow.perform version (.toAccelerator tensor index)).run w before).2) ∧
    (∀ (w : World TensorFlowCall) (before : History TensorFlowCall) (version shape index : Value),
      ∃ added, ((Diagnostic.run (TensorFlow.backend version) shape index).run w before).1 = before ++ added ∧
        Guarded index added ((Diagnostic.run (TensorFlow.backend version) shape index).run w before).2) ∧
    (∀ (w : World TensorFlowCall) (before : History TensorFlowCall) (version size index : Value),
      ∃ added, ((Compute.run (TensorFlow.backend version) size index).run w before).1 = before ++ added ∧
        Guarded index added ((Compute.run (TensorFlow.backend version) size index).run w before).2) ∧
    ∀ (s : Surroundings) (words : List String) (args : Arguments) (c : Configuration),
      Arguments.ofTexts words = .ok args → Configuration.build s.files args = .ok c →
      c.backend = .str (Library.key .tensorflow) →
      let o := run s words
      (∃ e, Unloaded s o [.logged (Backend.loadingRecord .tensorflow), .called (Backend.loadCall o.host .tensorflow) (.error e)] e) ∨
        ∃ version parts, Staged s c o
            [.logged (Backend.loadingRecord .tensorflow), .called (Backend.loadCall o.host .tensorflow) (.ok version)]
            (Backend.loaded version .tensorflow) parts ∧
          ∀ part ∈ parts, ∃ events : History TensorFlowCall, part.events = events.map (Event.rename .tensorflow) ∧
            (part.stage.program c o.host.environment (TensorFlow.backend version)).Trace events part.result ∧
            Guarded c.deviceIndex events part.result := by
  refine ⟨?_, ?_, ?_, ?_⟩
  · intro w before version tensor index
    obtain ⟨added, hadded, ht, -⟩ := run_trace w (TensorFlow.perform version (.toAccelerator tensor index)) before
    exact ⟨added, hadded, (TensorFlow.trace_toAccelerator ht).checked⟩
  · intro w before version shape index
    obtain ⟨added, hadded, ht, -⟩ := run_trace w (Diagnostic.run (TensorFlow.backend version) shape index) before
    exact ⟨added, hadded, Diagnostic.guarded_of_trace ht⟩
  · intro w before version size index
    obtain ⟨added, hadded, ht, -⟩ := run_trace w (Compute.run (TensorFlow.backend version) size index) before
    exact ⟨added, hadded, Compute.guarded_of_trace ht⟩
  · intro s words args c hargs hc hl
    rcases run_of_library hargs hc hl with hunloaded | ⟨version, parts, hstaged⟩
    · exact Or.inl hunloaded
    · refine Or.inr ⟨version, parts, hstaged, fun part hpart => ?_⟩
      have ht := (hstaged.consecutive.trace part hpart).1
      rw [Backend.loaded, Stage.program_rename] at ht
      obtain ⟨events, ht, hevents⟩ := trace_rename ht
      exact ⟨events, hevents, ht, Stage.guarded ht⟩

/-- A TensorFlow with one GPU, which makes every tensor in the scope that was entered last. -/
def obedient (h : History LibraryCall) : TensorFlowCall → Value
  | .listDevices => .list [.device (.str "/physical_device:GPU:0")]
  | .uniform _ | .identity _ | .matmul _ _ => .tensor [.int 2, .int 2] (scope h.calls) "[[1. 1.]\n [1. 1.]]"
  | .parseDevice (.str "/GPU:0") => .spec (.str "GPU") (.int 0)
  | .parseDevice _ => .spec (.str "CPU") (.int 0)
  | .mean _ | .max _ | .min _ => .int 1
  | _ => .str "2.15.0"
where
  /-- The scope that was entered last. -/
  scope (calls : List LibraryCall) : Value :=
    match calls.findSomeRev? fun | .tensorflow (.enter device) => some device | _ => none with
    | some device => device
    | none => .null

/-- Surroundings without files, with this TensorFlow. -/
def equipped : Surroundings where
  files := fun _ => none
  host := {}
  libraries := fun h => fun
    | .tensorflow c => .ok (obedient h c)
    | .torch _ => .ok .null

/-- What a session with the compute check writes there. -/
def equippedOutput : String :=
  "TensorFlow Version: 2.15.0\nGPU Available: true\nGPU Device Count: 1\nCreated GPU tensor successfully!\n[[1. 1.]\n [1. 1.]]\n" ++
    "=== Compute Check ===\nMatrix Multiplication: 1000x1000 on GPU device 0\nResult Shape: 2x2\n" ++
    "Mean: 1.0000\nMax: 1.0000\nMin: 1.0000\nGPU compute check passed!\n"

/-- Such a TensorFlow puts the tensors of a session where they belong, and both lines of success are written. -/
theorem placement_equipped :
    let words := ["-b", "tensorflow", "--compute"]
    let o := run equipped words
    o.output = equippedOutput ∧
      ∃ args c, Arguments.ofTexts words = .ok args ∧ Configuration.build equipped.files args = .ok c ∧
        c.backend = .str (Library.key .tensorflow) ∧
        ∃ version parts, Staged equipped c o
            [.logged (Backend.loadingRecord .tensorflow), .called (Backend.loadCall o.host .tensorflow) (.ok version)]
            (Backend.loaded version .tensorflow) parts ∧
          ∀ part ∈ parts, ∃ events : History TensorFlowCall, part.events = events.map (Event.rename .tensorflow) ∧
            (part.stage.program c o.host.environment (TensorFlow.backend version)).Trace events part.result ∧
            Guarded c.deviceIndex events part.result := by
  intro words o
  have houtput : o.output = equippedOutput := by decide +kernel
  refine ⟨houtput, _, _, rfl, rfl, rfl, ?_⟩
  rcases placement.2.2.2 equipped words _ _ rfl rfl rfl with ⟨e, hunloaded⟩ | hstaged
  · exact absurd (houtput.symm.trans hunloaded.output) (by decide +kernel)
  · exact hstaged

end Session

end AccelProbe
