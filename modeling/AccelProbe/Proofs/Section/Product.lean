import AccelProbe.Proofs.Section.Placement

/-!
# Where a product was made

A compute check over TensorFlow that says that it passed has gone through one computation: a matrix was moved to the device and found
there, its product was made in the scope of the place where the matrix lies, and the product was copied to the host and its
statistics taken there. `Computation` holds the answers and `Computation.course` the events. The place of the matrix is the only one
that is looked at. TensorFlow may put a product elsewhere than in the scope that is open, and a product that it puts elsewhere passes
the check as well.
-/

namespace AccelProbe

namespace TensorFlow

open Program

/-- What came of entering a scope and of leaving it. -/
structure Crossing where
  /-- What came of entering. -/
  entered : Value
  /-- What came of leaving. -/
  left : Value

/-- The course of a call in the scope of a device that was entered and left. -/
def inScope (device : Value) (c : TensorFlowCall) (result : Value) (x : Crossing) : History TensorFlowCall :=
  [.called (.enter device) (.ok x.entered), .called c (.ok result), .called (.exit device) (.ok x.left)]

variable {version tensor v : Value} {h : History TensorFlowCall}

/-- A call in a scope has a result only where the scope was entered and left. -/
theorem trace_within_ask_ok {device : Value} {c : TensorFlowCall} (ht : (within device (ask c)).Trace h (.ok v)) :
    ∃ x, h = inScope device c v x := by
  rcases trace_within_ask ht with ⟨_, _, hx⟩ | ⟨entered, reply, ⟨_, _, hx⟩ | ⟨left, rfl, rfl⟩⟩
  · cases hx
  · cases hx
  · exact ⟨⟨entered, left⟩, rfl⟩

/-- A new tensor is made on the host. -/
theorem trace_randomTensor_ok {shape : Value} (ht : (perform version (.randomTensor shape)).Trace h (.ok v)) :
    ∃ x, h = inScope hostScope (.uniform shape) v x :=
  trace_within_ask_ok ht

/-- A product is made in the scope of the place where its operand lies. -/
theorem trace_matmulTransposed_ok (ht : (perform version (.matmulTransposed tensor)).Trace h (.ok v)) :
    ∃ place x, tensor.heldBy = .ok place ∧ h = inScope place (.matmul tensor tensor) v x := by
  rcases trace_ofValue_bind ht with ⟨place, hp, hmatmul⟩ | ⟨_, _, _, hx⟩
  · obtain ⟨x, rfl⟩ := trace_within_ask_ok hmatmul
    exact ⟨place, x, hp, rfl⟩
  · cases hx

/-- A tensor is copied to the host in the scope of the host. -/
theorem trace_toHost_ok (ht : (perform version (.toHost tensor)).Trace h (.ok v)) :
    ∃ x, h = inScope hostScope (.identity tensor) v x :=
  trace_within_ask_ok ht

/-- A statistic that was taken is a number that TensorFlow gave. -/
theorem trace_statistic_ok {c : TensorFlowCall} (ht : (statistic c).Trace h (.ok v)) : ∃ x, h = [.called c (.ok x)] := by
  rcases trace_ask_bind ht with ⟨x, rest, rfl, hnumber⟩ | ⟨_, _, hx⟩
  case inr => cases hx
  rcases trace_ofValue_bind hnumber with ⟨_, _, hend⟩ | ⟨_, _, _, hx⟩
  · obtain ⟨rfl, -⟩ := trace_done_iff.mp hend
    exact ⟨x, rfl⟩
  · cases hx

/-- The statistics of a tensor, once they are taken. -/
theorem trace_statistics_ok (ht : (perform version (.statistics tensor)).Trace h (.ok v)) :
    ∃ mean greatest least, h =
      [.called (.mean tensor) (.ok mean), .called (.max tensor) (.ok greatest), .called (.min tensor) (.ok least)] := by
  rcases trace_bind ht with ⟨_, first, _, rfl, hmean, ht⟩ | ⟨_, _, hx⟩
  case inr => cases hx
  rcases trace_bind ht with ⟨_, second, _, rfl, hgreatest, ht⟩ | ⟨_, _, hx⟩
  case inr => cases hx
  rcases trace_bind ht with ⟨_, third, _, rfl, hleast, hend⟩ | ⟨_, _, hx⟩
  case inr => cases hx
  obtain ⟨mean, rfl⟩ := trace_statistic_ok hmean
  obtain ⟨greatest, rfl⟩ := trace_statistic_ok hgreatest
  obtain ⟨least, rfl⟩ := trace_statistic_ok hleast
  obtain ⟨rfl, -⟩ := trace_done_iff.mp hend
  exact ⟨mean, greatest, least, rfl⟩

/-- The answers of a computation: a matrix is made and moved to the device, it is multiplied, the product is copied to the host, and
statistics of the copy are taken. -/
structure Computation where
  /-- The text of the index. -/
  text : String
  /-- The matrix as it was made. -/
  fresh : Value
  /-- The matrix on the device. -/
  matrix : Value
  /-- The place where that matrix lies. -/
  place : Value
  /-- The index of the place. -/
  found : Value
  /-- The product. -/
  product : Value
  /-- The copy of the product. -/
  copy : Value
  /-- The mean of the copy. -/
  mean : Value
  /-- The greatest element of the copy. -/
  greatest : Value
  /-- The least element of the copy. -/
  least : Value
  /-- The scope in which the matrix was made. -/
  making : Crossing
  /-- The scope in which it was moved. -/
  moving : Crossing
  /-- The scope in which it was multiplied. -/
  multiplying : Crossing
  /-- The scope in which the product was copied. -/
  returning : Crossing

namespace Computation

/-- The course of a computation with a matrix of this shape. -/
def course (k : Computation) (shape : Value) : History TensorFlowCall :=
  inScope hostScope (.uniform shape) k.fresh k.making ++
    (transfer k.text k.moving.entered k.fresh k.matrix k.moving.left k.place (.spec (.str "GPU") k.found) ++
      (inScope k.place (.matmul k.matrix k.matrix) k.product k.multiplying ++
        (inScope hostScope (.identity k.product) k.copy k.returning ++
          [.called (.mean k.copy) (.ok k.mean), .called (.max k.copy) (.ok k.greatest), .called (.min k.copy) (.ok k.least)])))

/-- Whether the matrix of a computation was found on the device with this index. -/
structure Placed (k : Computation) (index : Value) : Prop where
  /-- The text is that of the index. -/
  text : index.toText = .ok k.text
  /-- The place is that of the matrix. -/
  place : k.matrix.heldBy = .ok k.place
  /-- The index of the place is the index. -/
  found : k.found.same index = true

end Computation

end TensorFlow

namespace Section.Compute

open Program TensorFlow

variable {accelerator : String} {size index : Value}

/-- A line other than the one that says that the section was skipped is written only after the multiplication, and no question is
asked between them. -/
theorem Way.multiplied_of_wrote {h before after : History Query} {r : Except Failure (Option ComputeReport)} {text : String}
    {taken : Taken} (hway : Way accelerator size index h r) (hh : h = before ++ .wrote (.str text) taken :: after)
    (ht : text ≠ skippedLine accelerator) :
    ∃ available record fresh matrix product copy statistics rest,
      before = .called .isAvailable (.ok available) :: .logged record ::
        (multiplication size index fresh matrix product copy statistics ++ rest) ∧
      ∀ q reply, .called q reply ∉ rest := by
  have hm : .wrote (.str text) taken ∈ h := by simp [hh]
  -- the lines of the report come after the multiplication, in which no line is written
  have hafter (available fresh matrix product copy statistics : Value) (record : LogRecord) (lines : History Query)
      (hlines : ∀ q reply, .called q reply ∉ lines)
      (hl : .called .isAvailable (.ok available) :: .logged record ::
        (multiplication size index fresh matrix product copy statistics ++ lines) = before ++ .wrote (.str text) taken :: after) :
      ∃ rest, before = .called .isAvailable (.ok available) :: .logged record ::
        (multiplication size index fresh matrix product copy statistics ++ rest) ∧ ∀ q reply, .called q reply ∉ rest := by
    rw [← List.cons_append, ← List.cons_append] at hl
    obtain ⟨rest, hbefore, hrest⟩ := History.split_of_notMem hl (by simp [multiplication])
    refine ⟨rest, hbefore, ?_⟩
    intro q reply hq
    exact hlines q reply (hrest ▸ List.mem_append_left _ hq)
  cases hway with
  | unasked e => simp at hm
  | unskipped available e ha => simp [ht] at hm
  | skipped available ha => simp [ht] at hm
  | unrecorded available ha hr => simp at hm
  | unmultiplied available fresh matrix product copy statistics ha hr hc =>
    simp only [List.mem_cons, List.mem_append, List.mem_map, reduceCtorEq, and_false, exists_false, false_or, or_false] at hm
    obtain ⟨planned, hplanned⟩ := hc.exists_wrote hm
    simp [multiplication] at hplanned
  | shapeless available fresh matrix product copy statistics ha hr hs => simp [multiplication] at hm
  | unwritable available fresh matrix product copy statistics ha hr hs hl => simp [multiplication] at hm
  | unreported available fresh matrix product copy statistics ha hr hs hl hc =>
    refine ⟨available, _, fresh, matrix, product, copy, statistics, hafter _ _ _ _ _ _ _ _ ?_ hh⟩
    intro q reply hq
    obtain ⟨planned, hplanned⟩ := hc.exists_called hq
    simp [History.ofLines] at hplanned
  | passed available fresh matrix product copy statistics ha hr hs hl =>
    exact ⟨available, _, fresh, matrix, product, copy, statistics, hafter _ _ _ _ _ _ _ _ (by simp [History.ofLines]) hh⟩

/-- Whether a history goes through a whole computation whose matrix was found on the device, and no other place is looked at. -/
def Computed (size index : Value) (h : History TensorFlowCall) : Prop :=
  ∃ (k : Computation) (lead lines : History TensorFlowCall), k.Placed index ∧
    h = lead ++ (k.course (.tuple [size, size]) ++ lines) ∧ ∀ place answer, .called (.parseDevice place) answer ∈ h → place = k.place

/-- The only place that is looked at is the one where the moved tensor lies. -/
theorem place_eq_of_parsed {version matrix place other : Value} {answer : Reply} {h : History Query}
    {h' : History TensorFlowCall} (hmoves : ∀ tensor i reply, .called (.toAccelerator tensor i) reply ∈ h → reply = .ok matrix)
    (he : Expands (perform version) h h') (hp : matrix.heldBy = .ok place)
    (hm : .called (.parseDevice other) answer ∈ h') : other = place := by
  obtain ⟨before, after, rfl⟩ := List.append_of_mem hm
  obtain ⟨first, q, reply, rest, _, part, part', _, rfl, hpart, -, -, -, -⟩ := he.split_called
  obtain ⟨tensor, i, rfl⟩ : ∃ tensor i, q = .toAccelerator tensor i := by
    cases q with
    | toAccelerator tensor i => exact ⟨tensor, i, rfl⟩
    | _ => exact absurd (by simp) (parseDevice_notMem (by nofun) hpart other answer)
  obtain rfl := hmoves tensor i reply (by simp)
  obtain ⟨text, entered, left, place', found, -, hp', -, htransfer⟩ := (trace_toAccelerator hpart).checked.placed matrix rfl
  have hm : .called (.parseDevice other) answer ∈ transfer text entered tensor matrix left place' (.spec (.str "GPU") found) := by
    simp [← htransfer]
  simp only [transfer, copying, List.cons_append, List.nil_append, List.mem_cons, Event.called.injEq, reduceCtorEq, false_and,
    TensorFlowCall.parseDevice.injEq, List.not_mem_nil, or_false, false_or] at hm
  rw [hm.1]
  exact Except.ok.inj (hp'.symm.trans hp)

/-- The multiplication, once it is worked out, is a computation. -/
theorem computed_of_expands {version available fresh matrix product copy statistics : Value} {record : LogRecord}
    {rest : History Query} {h' : History TensorFlowCall} (hrest : ∀ q reply, .called q reply ∉ rest)
    (he : Expands (perform version) (.called .isAvailable (.ok available) :: .logged record ::
      (multiplication size index fresh matrix product copy statistics ++ rest)) h') : Computed size index h' := by
  have hmoves : ∀ tensor i reply, .called (.toAccelerator tensor i) reply ∈ (.called .isAvailable (.ok available) ::
      .logged record :: (multiplication size index fresh matrix product copy statistics ++ rest) : History Query) →
      reply = .ok matrix := by
    intro tensor i reply hm
    simp only [multiplication, List.cons_append, List.nil_append, List.mem_cons, Event.called.injEq, reduceCtorEq, false_and,
      hrest, or_false, false_or] at hm
    exact hm.2
  have hplace := fun place other answer => @place_eq_of_parsed version matrix place other answer _ _ hmoves he
  obtain ⟨lead, _, rfl, -, hrecord⟩ := he.of_called
  obtain ⟨_, rfl, hsteps⟩ := hrecord.of_logged
  obtain ⟨_, _, rfl, hfresh, hsteps⟩ := hsteps.of_called
  obtain ⟨_, _, rfl, hmatrix, hsteps⟩ := hsteps.of_called
  obtain ⟨_, _, rfl, hproduct, hsteps⟩ := hsteps.of_called
  obtain ⟨_, _, rfl, hcopy, hsteps⟩ := hsteps.of_called
  obtain ⟨_, lines, rfl, hstatistics, -⟩ := hsteps.of_called
  obtain ⟨making, rfl⟩ := trace_randomTensor_ok hfresh
  obtain ⟨text, entered, left, place, found, hi, hp, hf, rfl⟩ := (trace_toAccelerator hmatrix).checked.placed matrix rfl
  obtain ⟨place', multiplying, hp', rfl⟩ := trace_matmulTransposed_ok hproduct
  obtain ⟨returning, rfl⟩ := trace_toHost_ok hcopy
  obtain ⟨mean, greatest, least, rfl⟩ := trace_statistics_ok hstatistics
  obtain rfl := Except.ok.inj (hp.symm.trans hp')
  let k : Computation :=
    { text, fresh, matrix, place, found, product, copy, mean, greatest, least, making, moving := ⟨entered, left⟩, multiplying, returning }
  refine ⟨k, lead ++ [.logged record], lines, ⟨hi, hp, hf⟩, ?_, fun other answer hm => hplace place other answer hp hm⟩
  simp only [Computation.course, k, List.append_assoc, List.cons_append, List.nil_append]

/-- The line of a check over TensorFlow that passed. -/
def passedText : String := "GPU compute check passed!"

/-- A check over TensorFlow says that it passed only after a whole computation whose matrix was found on the device, in every world
and after every history. -/
theorem computed_of_passed (w : World TensorFlowCall) (before : History TensorFlowCall) (version size index : Value) :
    ∃ added, ((run (backend version) size index).run w before).1 = before ++ added ∧
      ∀ earlier later taken, added = earlier ++ .wrote (.str passedText) taken :: later → Computed size index earlier := by
  obtain ⟨added, hadded, ht, -⟩ := run_trace w (run (backend version) size index) before
  refine ⟨added, hadded, ?_⟩
  rintro earlier later taken rfl
  obtain ⟨h, hway, he⟩ := exists_way ht
  obtain ⟨first, rest, rfl, hfirst, -⟩ := he.split_wrote (quiet_perform version)
  obtain ⟨available, record, fresh, matrix, product, copy, statistics, lines, rfl, hlines⟩ :=
    hway.multiplied_of_wrote rfl (by decide : passedText ≠ skippedLine "GPU")
  exact computed_of_expands hlines hfirst

/-! ## A product that lies elsewhere -/

/-- Whether every product of a history lies on the device with this index, by what a world reads in the name of its place. -/
def ProductsOn (w : World TensorFlowCall) (index : Value) (h : History TensorFlowCall) : Prop :=
  ∀ left right product, .called (.matmul left right) (.ok product) ∈ h → ∃ place found, product.heldBy = .ok place ∧
    w.answer h (.parseDevice place) = .ok (.spec (.str "GPU") found) ∧ found.same index = true

/-- The name of the only GPU. -/
def gpuName : String := "/job:localhost/replica:0/task:0/device:GPU:0"

/-- The name of the host. -/
def cpuName : String := "/job:localhost/replica:0/task:0/device:CPU:0"

/-- A TensorFlow with one GPU that makes its products in this place, whatever scope is open. -/
def multiplyingAt (place : String) : World TensorFlowCall where
  answer := fun _ => fun
    | .listDevices => .ok (.list [.device (.str "/physical_device:GPU:0")])
    | .uniform _ | .identity _ => .ok (.tensor [.int 2, .int 2] (.str gpuName) "")
    | .matmul _ _ => .ok (.tensor [.int 2, .int 2] (.str place) "")
    | .parseDevice (.str name) => .ok (.spec (.str (if name == gpuName then "GPU" else "CPU")) (.int 0))
    | .mean _ | .max _ | .min _ => .ok (.int 1)
    | _ => .ok .null
  take := fun _ _ => .ok ()

/-- What happens in a check with such a TensorFlow. -/
def checkAt (place : String) : History TensorFlowCall :=
  ((run (backend (.str "2.16.1")) (.int 2) (.int 0)).run (multiplyingAt place) []).1

/-- Whether an event says that a check passed. -/
def saysPassed : Event TensorFlowCall → Bool
  | .wrote (.str text) (.ok _) => text == passedText
  | _ => false

/-- Whether an event is a product made in this place. -/
def multipliesAt (place : String) : Event TensorFlowCall → Bool
  | .called (.matmul _ _) (.ok (.tensor _ (.str name) _)) => name == place
  | _ => false

/-- An event that says that a check passed is its line. -/
theorem exists_passed {h : History TensorFlowCall} (hs : h.any saysPassed = true) : .wrote (.str passedText) (.ok ()) ∈ h := by
  obtain ⟨event, hm, hevent⟩ := List.any_eq_true.mp hs
  unfold saysPassed at hevent
  split at hevent
  · rwa [beq_iff_eq.mp hevent] at hm
  · cases hevent

/-- A check whose product is made on the GPU passes after its computation. -/
theorem computed_of_passed_multiplyingAt : ∃ earlier later taken,
    checkAt gpuName = earlier ++ .wrote (.str passedText) taken :: later ∧ Computed (.int 2) (.int 0) earlier := by
  have hm := exists_passed (h := checkAt gpuName) (by decide +kernel)
  obtain ⟨earlier, later, hh⟩ := List.append_of_mem hm
  obtain ⟨added, hadded, hcomputed⟩ := computed_of_passed (multiplyingAt gpuName) [] (.str "2.16.1") (.int 2) (.int 0)
  exact ⟨earlier, later, .ok (), hh, hcomputed earlier later (.ok ()) (hadded.symm.trans hh)⟩

/-- A check whose product is made on the host passes too. -/
theorem passed_of_product_elsewhere : .wrote (.str passedText) (.ok ()) ∈ checkAt cpuName ∧
    ¬ ProductsOn (multiplyingAt cpuName) (.int 0) (checkAt cpuName) := by
  refine ⟨exists_passed (by decide +kernel), ?_⟩
  intro hon
  have hmade : (checkAt cpuName).any (multipliesAt cpuName) = true := by decide +kernel
  obtain ⟨event, hm, hevent⟩ := List.any_eq_true.mp hmade
  unfold multipliesAt at hevent
  split at hevent
  · rw [beq_iff_eq.mp hevent] at hm
    obtain ⟨place, found, hp, hparse, -⟩ := hon _ _ _ hm
    cases hp
    have hne : cpuName ≠ gpuName := by decide
    simp [multiplyingAt, hne] at hparse
  · cases hevent

end Section.Compute

end AccelProbe
