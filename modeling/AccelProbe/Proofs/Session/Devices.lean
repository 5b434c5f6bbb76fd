import AccelProbe.Proofs.Section.Devices
import AccelProbe.Proofs.Session.Placement

/-!
# What a session says of the devices

The three sections of a session ask for the devices on their own, at different times and by different questions. Over a library whose
answers for its devices stay the same, a session that is finished has told the same of them in all of its sections.
-/

namespace AccelProbe

/-- What a library calls itself. -/
def Library.displayName : Library → String
  | torch => Torch.displayName
  | tensorflow => TensorFlow.displayName

/-- What a library calls its accelerator. -/
def Library.acceleratorName : Library → String
  | torch => Torch.acceleratorName
  | tensorflow => TensorFlow.acceleratorName

namespace Session

open Program

theorem name_loaded (version : Value) (l : Library) : (Backend.loaded version l).name = l.displayName := by
  cases l <;> rfl

theorem accelerator_loaded (version : Value) (l : Library) : (Backend.loaded version l).accelerator = l.acceleratorName := by
  cases l <;> rfl

/-- Whether the lines of a stage are those of a stage that is over, with a library that finds devices with these names: the
diagnostic counts the devices, the environment report has their names in order, and the compute check is skipped exactly where there
are none. -/
def Stage.Tells (l : Library) (env : Environment) (names : List Value) : Stage → List Value → Prop
  | diagnostic, lines => ∃ version text,
      lines = Section.Diagnostic.foundLines l.displayName l.acceleratorName version text names.length
  | environment, lines => ∃ capabilities, lines = (Section.Environment.expected env capabilities (names.map Value.display)).map .str
  | compute, lines => ∃ report, Section.Compute.reportLines l.acceleratorName report = .ok lines ∧ (report = none ↔ names.length = 0)

variable {l : Library} {env : Environment} {names lines : List Value}

/-- A stage that is over tells of the devices that the library finds. -/
theorem Stage.tells_of_trace {w : World LibraryCall} (hf : Finds w l names) {stage : Stage} {c : Configuration} {version : Value}
    {h : History LibraryCall} {report : Report} (ht : (stage.program c env (Backend.loaded version l)).Trace h (.ok report))
    (hy : ∀ event ∈ h, w.Yields event) : stage.Tells l env names h.lines := by
  have hquiet := (Backend.plain_loaded version l).quiet
  cases stage with
  | diagnostic =>
    obtain ⟨r, hrun, -⟩ := trace_bind_done_ok ht
    rcases trace_ofValue_bind hrun with ⟨sizes, -, hwith⟩ | ⟨_, _, _, hfailed⟩
    · obtain ⟨course, hway, he⟩ := Section.Diagnostic.exists_way hwith
      rw [name_loaded, accelerator_loaded] at hway
      obtain ⟨version, text, hlines⟩ := hway.lines_of_finds (hf.history he hy)
      exact ⟨version, text, (he.lines hquiet).trans hlines⟩
    · cases hfailed
  | environment =>
    obtain ⟨r, hrun, -⟩ := trace_bind_done_ok ht
    obtain ⟨course, hway, he⟩ := Section.Environment.exists_way hrun
    obtain ⟨capabilities, hlines⟩ := hway.lines_of_finds (hf.history he hy)
    exact ⟨capabilities, (he.lines hquiet).trans hlines⟩
  | compute =>
    obtain ⟨r, hrun, -⟩ := trace_bind_done_ok ht
    obtain ⟨course, hway, he⟩ := Section.Compute.exists_way hrun
    rw [accelerator_loaded] at hway
    refine ⟨r, ?_, hway.isNone_iff_of_finds (hf.history he hy)⟩
    rw [he.lines hquiet]
    exact hway.report_lines

/-- A text is one of the lines of a report where it is one of its texts. -/
theorem str_mem_map_str_iff {text : String} {texts : List String} : Value.str text ∈ texts.map Value.str ↔ text ∈ texts := by
  simp

/-- The environment report has a heading for the devices exactly where there are any. -/
theorem Stage.Tells.headed (ht : Stage.environment.Tells l env names lines) :
    .str EnvironmentReport.devicesHeading ∈ lines ↔ 0 < names.length := by
  obtain ⟨capabilities, rfl⟩ := ht
  rw [str_mem_map_str_iff, Section.Environment.devicesHeading_mem_expected_iff, List.length_map]

/-- The line that confirms a tensor has no colon. -/
theorem colon_notMem_confirmationText (l : Library) : ':' ∉ (Section.Diagnostic.confirmationText l.acceleratorName).toList := by
  cases l with
  | torch => decide
  | tensorflow => decide

/-- A line that begins otherwise does not confirm a tensor. -/
theorem confirmationText_ne {accelerator t : String} (h : ¬ "Created ".toList <+: t.toList) :
    Section.Diagnostic.confirmationText accelerator ≠ t := by
  rw [Section.Diagnostic.confirmationText, String.append_assoc]
  exact append_ne h

/-- Where there is no device, no stage confirms a tensor. -/
theorem Stage.Tells.unconfirmed {stage : Stage} (ht : stage.Tells l env [] lines) :
    .str (Section.Diagnostic.confirmationText l.acceleratorName) ∉ lines := by
  have hcolon := colon_notMem_confirmationText l
  cases stage with
  | diagnostic =>
    obtain ⟨version, text, rfl⟩ := ht
    change _ ∉ List.map Value.str [_, _, _]
    rw [str_mem_map_str_iff]
    intro hm
    simp only [List.mem_cons, List.not_mem_nil, or_false] at hm
    rcases hm with hm | hm | hm
    · exact hcolon (hm ▸ by simp [Section.Diagnostic.versionText])
    · exact hcolon (hm ▸ by simp)
    · exact hcolon (hm ▸ by simp)
  | environment =>
    obtain ⟨capabilities, rfl⟩ := ht
    rw [str_mem_map_str_iff]
    exact Section.Environment.notMem_expected_nil hcolon (confirmationText_ne (by decide)) (confirmationText_ne (by decide))
  | compute =>
    obtain ⟨report, hlines, hnone⟩ := ht
    obtain rfl := hnone.mpr rfl
    cases hlines
    intro hm
    have hskipped := Value.str.inj (List.mem_singleton.mp hm)
    cases l with
    | torch => exact confirmationText_ne (by decide) hskipped
    | tensorflow => exact confirmationText_ne (by decide) hskipped

/-- The stages of a session that are over tell of the devices that the library finds. -/
theorem Staged.tells {s : Surroundings} {c : Configuration} {o : Outcome} {loading : History LibraryCall} {version : Value}
    {parts : List (Part LibraryCall)} (hs : Staged s c o loading (Backend.loaded version l) parts) (hf : Finds (world s) l names) :
    ∀ part ∈ parts, part.Returned → part.stage.Tells l o.host.environment names part.events.lines := by
  rintro part hpart ⟨report, hreport⟩
  obtain ⟨ht, hy⟩ := hs.consecutive.trace part hpart
  rw [hreport] at ht
  exact Stage.tells_of_trace hf ht hy

/-- The lines of three stages. -/
def byStage (diagnostic environment compute : List Value) : Stage → List Value
  | .diagnostic => diagnostic
  | .environment => environment
  | .compute => compute

/-- A session that is finished tells the same of the devices in all of its sections, over every library whose answers for its
devices stay the same. Its diagnostic says whether there is an accelerator and how many devices there are; its environment report
has the names of the devices in order, with their indices, under a heading that stands exactly where there is a device; and its
compute check is skipped exactly where there is none, in which case no line confirms a tensor. -/
theorem sections_agree (s : Surroundings) (words : List String) (args : Arguments) (c : Configuration) (l : Library)
    (names : List Value) (hargs : Arguments.ofTexts words = .ok args) (hc : Configuration.build s.files args = .ok c)
    (hl : c.backend = .str l.key) (henvironment : c.reportEnvironment = .bool true) (hcompute : c.checkCompute = .bool true)
    (hfinds : Finds (world s) l names) (hfinished : (run s words).ending = .finished) :
    let o := run s words
    ∃ told : Stage → List Value,
      o.output = textOf (told .diagnostic ++ told .environment ++ told .compute) ∧
        (∀ stage : Stage, stage.Tells l o.host.environment names (told stage)) ∧
        (.str EnvironmentReport.devicesHeading ∈ told .environment ↔ 0 < names.length) ∧
        (names.length = 0 → ∀ stage, .str (Section.Diagnostic.confirmationText l.acceleratorName) ∉ told stage) := by
  rcases run_of_library hargs hc hl with ⟨e, hunloaded⟩ | ⟨version, parts, hstaged⟩
  case inl => cases hfinished.symm.trans hunloaded.ending
  rcases hstaged.ended with ⟨hstages, hreturned, -, -⟩ | ⟨_, _, e, _, _, hfailed, _⟩
  case inr => cases hfinished.symm.trans hfailed
  have htells := fun part hpart => hstaged.tells hfinds part hpart (hreturned part hpart)
  -- there is one part for each of the three stages
  have hrequested : requested c = [.diagnostic, .environment, .compute] := by
    rw [requested, henvironment, hcompute]
    rfl
  rw [hrequested] at hstages
  obtain ⟨⟨_, first, _⟩, _, rfl, rfl, hsecond⟩ := List.map_eq_cons_iff.mp hstages
  obtain ⟨⟨_, second, _⟩, _, rfl, rfl, hthird⟩ := List.map_eq_cons_iff.mp hsecond
  obtain ⟨⟨_, third, _⟩, _, rfl, rfl, hnone⟩ := List.map_eq_cons_iff.mp hthird
  obtain rfl := List.map_eq_nil_iff.mp hnone
  obtain ⟨hdiagnosed, htells⟩ := List.forall_mem_cons.mp htells
  obtain ⟨hreported, htells⟩ := List.forall_mem_cons.mp htells
  have hchecked := List.forall_mem_singleton.mp htells
  have htold : ∀ stage : Stage, stage.Tells l (run s words).host.environment names
      (byStage first.lines second.lines third.lines stage) := by
    intro stage
    cases stage with
    | diagnostic => exact hdiagnosed
    | environment => exact hreported
    | compute => exact hchecked
  refine ⟨byStage first.lines second.lines third.lines, ?_, htold, (htold .environment).headed, ?_⟩
  · rw [hstaged.output]
    simp [byStage]
  · intro hnone stage
    obtain rfl := List.eq_nil_of_length_eq_zero hnone
    exact (htold stage).unconfirmed

/-! ## A machine with two GPUs -/

/-- The GPUs of the machine; the details of the second one do not name it. -/
def twoGpus : List TensorFlow.Gpu :=
  [⟨.str "/physical_device:GPU:0", [("device_name", .str "Left GPU")]⟩,
    ⟨.str "/physical_device:GPU:1", [("compute_capability", .int 8)]⟩]

/-- Surroundings without files, with a TensorFlow that finds these GPUs. -/
def furnished : Surroundings where
  files := fun _ => none
  host := {}
  libraries := fun h => fun
    | .tensorflow .listDevices => .ok (.list (twoGpus.map TensorFlow.Gpu.device))
    | .tensorflow (.deviceDetails (.device (.str "/physical_device:GPU:0"))) => .ok (.dictionary [("device_name", .str "Left GPU")])
    | .tensorflow (.deviceDetails _) => .ok (.dictionary [("compute_capability", .int 8)])
    | .tensorflow .builtWithCuda => .ok (.bool true)
    | .tensorflow c => .ok (obedient h c)
    | .torch _ => .ok .null

/-- What a session with all sections writes there. -/
def furnishedOutput : String :=
  "TensorFlow Version: 2.15.0
GPU Available: true
GPU Device Count: 2
Created GPU tensor successfully!
[[1. 1.]
 [1. 1.]]
" ++
    "=== Environment ===
CUDA_VISIBLE_DEVICES: <unset>
CUDA_HOME: <unset>
LD_LIBRARY_PATH: <unset>
" ++
    "PYTORCH_CUDA_ALLOC_CONF: <unset>
TF_CPP_MIN_LOG_LEVEL: 2
=== Build ===
Built With CUDA: true
Built With GPU Support: true
" ++
    "=== Devices ===
Device 0: Left GPU
Device 1: /physical_device:GPU:1
" ++
    "=== Compute Check ===
Matrix Multiplication: 1000x1000 on GPU device 0
Result Shape: 2x2
" ++
    "Mean: 1.0000
Max: 1.0000
Min: 1.0000
GPU compute check passed!
"

/-- The TensorFlow there finds the two GPUs, under these names. -/
theorem finds_furnished : Finds (world furnished) .tensorflow [.str "Left GPU", .str "/physical_device:GPU:1"] := by
  refine @Finds.tensorflow (world furnished) twoGpus ?_ ?_
  · intro h reply hreply
    exact (Except.ok.inj hreply).symm
  · intro gpu hm h reply hreply
    simp only [twoGpus, List.mem_cons, List.not_mem_nil, or_false] at hm
    rcases hm with rfl | rfl
    · exact (Except.ok.inj hreply).symm
    · exact (Except.ok.inj hreply).symm

/-- A session with all sections tells of both GPUs there. -/
theorem sections_agree_furnished :
    let words := ["-b", "tensorflow", "-e", "--compute"]
    let names := [.str "Left GPU", .str "/physical_device:GPU:1"]
    let o := run furnished words
    o.output = furnishedOutput ∧ Finds (world furnished) .tensorflow names ∧ o.ending = .finished ∧
      ∃ told : Stage → List Value,
        o.output = textOf (told .diagnostic ++ told .environment ++ told .compute) ∧
          (∀ stage : Stage, stage.Tells .tensorflow o.host.environment names (told stage)) ∧
          (.str EnvironmentReport.devicesHeading ∈ told .environment ↔ 0 < names.length) ∧
          (names.length = 0 → ∀ stage,
            .str (Section.Diagnostic.confirmationText (Library.acceleratorName .tensorflow)) ∉ told stage) := by
  intro words names o
  have hfinished : o.ending = .finished := rfl
  exact ⟨by decide +kernel, finds_furnished, hfinished,
    sections_agree furnished words _ _ .tensorflow names rfl rfl rfl rfl rfl finds_furnished hfinished⟩

end Session

end AccelProbe
