import AccelProbe.Proofs.Backend.Lawful
import AccelProbe.Proofs.Section.Served
import AccelProbe.Rehearsal.TensorFlow
import AccelProbe.Rehearsal.Torch

/-!
# The two libraries agree

Torch and TensorFlow put every question otherwise: one moves a tensor and the other opens a scope, one asks for the name of each index
and the other for the details of each device in a list. Where both keep to their documentation on machines with the same hardware,
the sections cannot tell them apart: they write the same lines but for what the library calls itself, and end alike.
-/

namespace AccelProbe

namespace Section

open Program Value

/-- What a run that reaches a kind of course leaves, over a backend that answers by calls alone. -/
theorem exists_of_reaches {Call α : Type} {b : Backend Call} {w : World Call} {p : Program Call α}
    {Q : History Query → Except Failure α → Prop} (hb : b.Plain) (hp : Reaches b.perform w p Q) (before : History Call) :
    ∃ h r course, p.run w before = (before ++ h, r) ∧ Expands b.perform course h ∧ h.lines = course.lines ∧ Q course r := by
  obtain ⟨h, course, hrun, hexp, hQ⟩ := hp before
  exact ⟨h, (p.run w before).2, course, Prod.ext hrun rfl, hexp, hexp.lines hb.quiet, hQ⟩

/-- Whether two runs are alike from outside: as many lines, and a result of both or the same failure. -/
def Alike {Call Call' α : Type} (h : History Call) (r : Except Failure α) (h' : History Call') (r' : Except Failure α) : Prop :=
  h.lines.length = h'.lines.length ∧ ending r = ending r'

/-- Runs that come to what is expected are alike where the expectations are. -/
theorem Alike.of_expected {Call Call' α : Type} {h : History Call} {r : Except Failure α} {h' : History Call'}
    {r' : Except Failure α} {x x' : List Value × Except Failure Unit} (hx : (h.lines, ending r) = x)
    (hx' : (h'.lines, ending r') = x') (hsame : x.1.length = x'.1.length ∧ x.2 = x'.2) : Alike h r h' r' := by
  subst hx
  subst hx'
  exact hsame

/-- Whether a run of the compute section that has a report went through the computation of that report on the device. -/
def ComputedOn {Call : Type} (b : Backend Call) (size : Nat) (index : Int) (host device : String) (h : History Call)
    (r : Except Failure (Option ComputeReport)) : Prop :=
  ∀ report, r = .ok report → ∃ made course, report = some made ∧ Expands b.perform course h ∧
    Compute.ReportOf size index host device course made

variable {g : Hardware} {index : Int} {host device : String}

/-- On machines with the same hardware, whatever that is, the diagnostic section, the environment section and the compute section
come to the same over a Torch and over a TensorFlow that keep to their documentation, after every history. What the two runs of the
compute section reduce has to come to the same numbers: nothing is asked of other tensors and other runs. The lines are those that
are expected of the hardware, with the names and the version of the library and the printed tensor put in; the environment section
differs in the capabilities of the libraries and not in the devices. Where there is a device, the printed tensor lies on the one that
was asked for; and a report of the compute section has the shape of a square twice, and its computation took place on that device,
with the statistics taken from a copy on the host. -/
theorem libraries_agree {wt : World TorchCall} {wf : World TensorFlowCall} (ht : Torch.Lawful wt g index)
    (hf : TensorFlow.Lawful wf g index host device) (vt vf : String) (past : History TorchCall) (past' : History TensorFlowCall)
    {shape : Value} {sizes : List Nat} (hshape : shape.items = .ok (ofSizes sizes)) (size : Nat)
    (env : AccelProbe.Environment)
    (hrt : ∀ h r, (Compute.run (Torch.backend (.str vt)) (.int size) (.int index)).run wt past = (past ++ h, r) →
      h.Answered (Torch.Reduces g [size, size]))
    (hrf : ∀ h r, (Compute.run (TensorFlow.backend (.str vf)) (.int size) (.int index)).run wf past' = (past' ++ h, r) →
      h.Answered (TensorFlow.Reduces g [size, size])) :
    (∃ h r h' r' text text',
      (Diagnostic.run (Torch.backend (.str vt)) shape (.int index)).run wt past = (past ++ h, r) ∧
        (Diagnostic.run (TensorFlow.backend (.str vf)) shape (.int index)).run wf past' = (past' ++ h', r') ∧
        (h.lines, ending r) = Diagnostic.expected ⟨"Torch", "CUDA", vt, text⟩ g sizes index ∧
        (h'.lines, ending r') = Diagnostic.expected ⟨"TensorFlow", "GPU", vf, text'⟩ g sizes index ∧ Alike h r h' r' ∧
        (0 < g.count → (∀ report, r = .ok report → Diagnostic.Allocated sizes ("cuda:" ++ intText index) text report) ∧
          ∀ report, r' = .ok report → Diagnostic.Allocated sizes device text' report)) ∧
      (∃ h r h' r' capabilities capabilities',
        (Environment.run (Torch.backend (.str vt)) env).run wt past = (past ++ h, r) ∧
          (Environment.run (TensorFlow.backend (.str vf)) env).run wf past' = (past' ++ h', r') ∧
          (h.lines, ending r) = ((Environment.expected env capabilities g.names).map .str, .ok ()) ∧
          (h'.lines, ending r') = ((Environment.expected env capabilities' g.names).map .str, .ok ())) ∧
      ∃ h r h' r',
        (Compute.run (Torch.backend (.str vt)) (.int size) (.int index)).run wt past = (past ++ h, r) ∧
          (Compute.run (TensorFlow.backend (.str vf)) (.int size) (.int index)).run wf past' = (past' ++ h', r') ∧
          (h.lines, ending r) = Compute.expected "CUDA" g size index ∧
          (h'.lines, ending r') = Compute.expected "GPU" g size index ∧ Alike h r h' r' ∧
          (0 < g.count →
            ComputedOn (Torch.backend (.str vt)) size index "cpu" ("cuda:" ++ intText index) h r ∧
              ComputedOn (TensorFlow.backend (.str vf)) size index host device h' r') := by
  have hst := Torch.serves ht vt
  have hsf := TensorFlow.serves hf vf
  have hpt := Backend.plain_torch (.str vt)
  have hpf := Backend.plain_tensorflow (.str vf)
  refine ⟨?_, ?_, ?_⟩
  · obtain ⟨h, r, course, hrun, -, hlines, text, hq, hmade⟩ := exists_of_reaches hpt (Diagnostic.reaches_run hst hshape) past
    obtain ⟨h', r', course', hrun', -, hlines', text', hq', hmade'⟩ :=
      exists_of_reaches hpf (Diagnostic.reaches_run hsf hshape) past'
    rw [← hlines] at hq
    rw [← hlines'] at hq'
    have halike : Alike h r h' r' := .of_expected hq hq' (Diagnostic.expected_alike _ _ g sizes index)
    exact ⟨h, r, h', r', text, text', hrun, hrun', hq, hq', halike, fun hpos => ⟨hmade hpos, hmade' hpos⟩⟩
  · obtain ⟨h, r, course, hrun, -, hlines, capabilities, hq⟩ := exists_of_reaches hpt (Environment.reaches_run hst env) past
    obtain ⟨h', r', course', hrun', -, hlines', capabilities', hq'⟩ :=
      exists_of_reaches hpf (Environment.reaches_run hsf env) past'
    rw [← hlines] at hq
    rw [← hlines'] at hq'
    exact ⟨h, r, h', r', capabilities, capabilities', hrun, hrun', hq, hq'⟩
  · -- the runs are those in worlds that would reduce every tensor so
    have hmt := Torch.measures (World.right_mended wt (Torch.reduces_reduction g [size, size])) vt
    have hmf := @TensorFlow.measures _ _ host _ (World.right_mended wf (TensorFlow.reduces_reduction g [size, size])) vf
    have hst' := Torch.serves (ht.mended [size, size] (Torch.reduction g [size, size])) vt
    have hsf' := TensorFlow.serves (hf.mended [size, size] (TensorFlow.reduction g [size, size])) vf
    obtain ⟨h, r, course, hrun, hexp, hlines, hq, hmade⟩ := exists_of_reaches hpt (Compute.reaches_run hst' size hmt) past
    obtain ⟨h', r', course', hrun', hexp', hlines', hq', hmade'⟩ := exists_of_reaches hpf (Compute.reaches_run hsf' size hmf) past'
    rw [run_mended hrt] at hrun
    rw [run_mended hrf] at hrun'
    rw [← hlines] at hq
    rw [← hlines'] at hq'
    have halike : Alike h r h' r' := .of_expected hq hq' (Compute.expected_alike _ _ g size index)
    refine ⟨h, r, h', r', hrun, hrun', hq, hq', halike, fun hpos => ⟨?_, ?_⟩⟩
    · intro report hr
      obtain ⟨made, hreport, hcomputed⟩ := hmade hpos report hr
      exact ⟨made, course, hreport, hexp, hcomputed⟩
    · intro report hr
      obtain ⟨made, hreport, hcomputed⟩ := hmade' hpos report hr
      exact ⟨made, course', hreport, hexp', hcomputed⟩

/-! ## A machine with two devices -/

/-- Two devices; a tensor comes to the same whatever its sizes. -/
def twoDevices : Hardware where
  names := ["Left GPU", "Right GPU"]
  mean := fun _ => .ofRatio false 1 2
  greatest := fun _ => .ofRatio false 1 1
  least := fun _ => .ofRatio false 0 1

/-- The rehearsed Torch on that machine. -/
def torchOfTwo : World TorchCall where
  answer := fun h c =>
    match c with
    | .isAvailable => .ok (.bool true)
    | .deviceCount => .ok (.int 2)
    | .deviceName i => .ok (.str (if i = 0 then "Left GPU" else "Right GPU"))
    | c => Rehearsal.Torch.usual h c
  take := fun _ _ => .ok ()

/-- The rehearsed TensorFlow on that machine. -/
def tensorflowOfTwo : World TensorFlowCall where
  answer := fun h c =>
    match c with
    | .listDevices => .ok (.list [.device (.str "/physical_device:GPU:0"), .device (.str "/physical_device:GPU:1")])
    | .deviceDetails (.device (.str name)) =>
      .ok (.dictionary [("device_name", .str (if name == "/physical_device:GPU:0" then "Left GPU" else "Right GPU"))])
    | c => Rehearsal.TensorFlow.usual h c
  take := fun _ _ => .ok ()

/-- The name of the host's place. -/
def hostPlace : String := "/job:localhost/replica:0/task:0/device:CPU:0"

/-- The name of the place of the second device. -/
def secondPlace : String := "/job:localhost/replica:0/task:0/device:GPU:1"

/-- A rehearsed tensor can be had where its sizes can be written. -/
theorem exists_rehearsed {sizes : List Nat} (h : sizesFit sizes = true) (place : String) :
    ∃ v, Rehearsal.tensor (ofSizes sizes) (.str place) = .ok v ∧ v.LiesAt sizes place := by
  have htext : Rehearsal.tensorText (ofSizes sizes) (.str place) =
      .ok ("Tensor[" ++ String.intercalate "x" (sizes.map natText) ++ "]@" ++ place) := by
    rw [Rehearsal.tensorText, toDimensions_ofSizes h, toText_str]
    rfl
  rw [Rehearsal.tensor, htext]
  exact ⟨_, rfl, _, rfl⟩

/-- The rehearsed Torch keeps to its documentation. -/
theorem lawful_torchOfTwo : Torch.Lawful torchOfTwo twoDevices 1 where
  takes := fun _ _ => rfl
  available := fun _ => rfl
  counted := fun _ => rfl
  named := by
    intro h i name hname
    match i, hname with
    | 0, hname =>
      cases hname
      rfl
    | 1, hname =>
      cases hname
      rfl
  made := fun _ _ hsizes => exists_rehearsed hsizes "cpu"
  moved := fun _ _ _ hsizes => exists_rehearsed hsizes "cuda:1"
  turned := by
    intro h n m place text hsizes
    have hturned : sizesFit [m, n] = true := sizesFit_of_subset hsizes (by simp)
    exact exists_rehearsed hturned place
  multiplied := by
    intro h n m k place text text' hsizes
    have hproduct : sizesFit [n, k] = true := sizesFit_of_subset hsizes (by simp)
    exact exists_rehearsed hproduct place
  copied := fun _ _ _ hsizes => exists_rehearsed hsizes "cpu"
  built := by
    rintro h c (rfl | rfl | rfl | rfl)
    · exact ⟨_, rfl⟩
    · exact ⟨_, rfl⟩
    · exact ⟨_, rfl⟩
    · exact ⟨_, rfl⟩

/-- A tensor that the rehearsed TensorFlow makes lies where the innermost scope is. -/
theorem currentDevice_of_standsFor {h : History TensorFlowCall} {scope : Value} {rest : List Value} {place : String}
    (hopen : TensorFlow.openScopes h = scope :: rest)
    (hs : TensorFlow.StandsFor 1 hostPlace secondPlace scope place) :
    Rehearsal.TensorFlow.currentDevice h = .ok (.str place) := by
  rw [Rehearsal.TensorFlow.currentDevice, hopen]
  cases hs with
  | host =>
    change Rehearsal.TensorFlow.fullName (.str "/CPU:0") = _
    rw [Rehearsal.TensorFlow.fullName, if_neg (by decide +kernel)]
    rfl
  | short =>
    change Rehearsal.TensorFlow.fullName (.str "/GPU:1") = _
    rw [Rehearsal.TensorFlow.fullName, if_neg (by decide +kernel)]
    rfl
  | full =>
    change Rehearsal.TensorFlow.fullName (.str secondPlace) = _
    rw [Rehearsal.TensorFlow.fullName, if_pos (by decide +kernel)]

/-- The rehearsed TensorFlow keeps to its documentation. -/
theorem lawful_tensorflowOfTwo : TensorFlow.Lawful tensorflowOfTwo twoDevices 1 hostPlace secondPlace where
  takes := fun _ _ => rfl
  listed := by
    refine ⟨[.str "/physical_device:GPU:0", .str "/physical_device:GPU:1"], rfl, fun _ => rfl, ?_⟩
    intro v name hm h
    rcases List.mem_cons.mp hm with hm | hm
    · cases hm
      exact ⟨_, rfl, rfl⟩
    · cases List.mem_singleton.mp hm
      exact ⟨_, rfl, rfl⟩
  entered := fun _ _ _ _ => ⟨_, rfl⟩
  left := fun _ _ _ _ => ⟨_, rfl⟩
  parsed := by
    intro h
    have hfound : Rehearsal.TensorFlow.atEnd? secondPlace.toList = some ("GPU", ['1']) := by decide +kernel
    change Rehearsal.TensorFlow.parse secondPlace.toList = _
    unfold Rehearsal.TensorFlow.parse
    rw [hfound]
    rfl
  made := by
    intro h scope rest place sizes hopen hs hsizes
    change ∃ v, (Rehearsal.TensorFlow.currentDevice h).bind (Rehearsal.tensor (ofSizes sizes)) = .ok v ∧ _
    rw [currentDevice_of_standsFor hopen hs]
    exact exists_rehearsed hsizes place
  copied := by
    intro h scope rest place sizes _ _ hopen hs hsizes
    change ∃ v, (Rehearsal.TensorFlow.currentDevice h).bind (Rehearsal.moved _) = .ok v ∧ _
    rw [currentDevice_of_standsFor hopen hs]
    exact exists_rehearsed hsizes place
  multiplied := by
    intro h scope rest place n m k _ _ _ _ hopen hs hsizes
    have hproduct : sizesFit [n, k] = true := sizesFit_of_subset hsizes (by simp)
    change ∃ v, (Rehearsal.TensorFlow.currentDevice h).bind (Rehearsal.tensor (ofSizes [n, k])) = .ok v ∧ _
    rw [currentDevice_of_standsFor hopen hs]
    exact exists_rehearsed hproduct place
  built := by
    rintro h c (rfl | rfl)
    · exact ⟨_, rfl⟩
    · exact ⟨_, rfl⟩

/-- On that machine both check the second device with a matrix of three rows, and write the same seven lines. -/
theorem libraries_agree_ofTwo :
    (Torch.Lawful torchOfTwo twoDevices 1 ∧ TensorFlow.Lawful tensorflowOfTwo twoDevices 1 hostPlace secondPlace ∧
        Diagnostic.standardShape.items = .ok (ofSizes [2, 3]) ∧
        (∀ (h : History TorchCall) r, (Compute.run (Torch.backend (.str "2.4.0")) (.int 3) (.int 1)).run torchOfTwo [] =
          ([] ++ h, r) → h.Answered (Torch.Reduces twoDevices [3, 3])) ∧
        ∀ (h : History TensorFlowCall) r, (Compute.run (TensorFlow.backend (.str "2.16.1")) (.int 3) (.int 1)).run tensorflowOfTwo [] =
          ([] ++ h, r) → h.Answered (TensorFlow.Reduces twoDevices [3, 3])) ∧
      ∃ h r h' r',
        (Compute.run (Torch.backend (.str "2.4.0")) (.int 3) (.int 1)).run torchOfTwo [] = (h, r) ∧
          (Compute.run (TensorFlow.backend (.str "2.16.1")) (.int 3) (.int 1)).run tensorflowOfTwo [] = (h', r') ∧
          h.lines = (Compute.passedLines "CUDA" twoDevices 3 1).map .str ∧
          h'.lines = (Compute.passedLines "GPU" twoDevices 3 1).map .str ∧ Alike h r h' r' ∧
          ComputedOn (Torch.backend (.str "2.4.0")) 3 1 "cpu" "cuda:1" h r ∧
          ComputedOn (TensorFlow.backend (.str "2.16.1")) 3 1 hostPlace secondPlace h' r' := by
  have hshape : Diagnostic.standardShape.items = .ok (ofSizes [2, 3]) := rfl
  have hrt : ∀ h c, Torch.Reduces twoDevices [3, 3] c (torchOfTwo.answer h c) := by
    intro h c
    cases c <;> first | exact rfl | exact trivial
  have hrf : ∀ h c, TensorFlow.Reduces twoDevices [3, 3] c (tensorflowOfTwo.answer h c) := by
    intro h c
    cases c <;> first | exact ⟨_, rfl, rfl⟩ | exact trivial
  refine ⟨⟨lawful_torchOfTwo, lawful_tensorflowOfTwo, hshape, fun _ _ => answered_of_run hrt, fun _ _ => answered_of_run hrf⟩, ?_⟩
  obtain ⟨-, -, h, r, h', r', hrun, hrun', hx, hx', halike, hcomputed⟩ :=
    libraries_agree lawful_torchOfTwo lawful_tensorflowOfTwo "2.4.0" "2.16.1" [] [] hshape 3 []
      (fun _ _ => answered_of_run hrt) (fun _ _ => answered_of_run hrf)
  obtain ⟨hmade, hmade'⟩ := hcomputed (by decide)
  exact ⟨h, r, h', r', hrun, hrun', congrArg Prod.fst hx, congrArg Prod.fst hx', halike, hmade, hmade'⟩

end Section

end AccelProbe
