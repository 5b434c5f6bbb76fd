import AccelProbe.Proofs.Backend.Serves
import AccelProbe.Proofs.Basic
import AccelProbe.Proofs.Section.Atomic
import AccelProbe.Proofs.Section.Diagnostic

/-!
# The sections over a library that works

Over a backend that serves the hardware of a machine, what each section writes and how it ends is a function of the hardware, of what
the section is asked for, and of what the library calls itself. The functions are called `expected`.
-/

namespace AccelProbe

namespace Section

open Program Value

/-- How a section ends: with a result, or with this failure. -/
def ending {α : Type} (r : Except Failure α) : Except Failure Unit := r.map fun _ => ()

/-- The end of a section that had to write a number with too many digits. -/
def unwritten : Except Failure Unit := .error (.value .integerTooLong)

/-- Sizes as they are written. -/
def sizesText (sizes : List Nat) : String := String.intercalate "x" (sizes.map natText)

variable {Call : Type} {b : Backend Call} {w : World Call} {g : Hardware} {version : String} {index : Int} {host device : String}

namespace Diagnostic

/-- What in the lines of the section belongs to the library: its names, its version, and what the tensor prints as. -/
structure Labels where
  /-- The name of the library. -/
  library : String
  /-- The name of its accelerator. -/
  accelerator : String
  /-- Its version. -/
  version : String
  /-- What the allocated tensor prints as. -/
  tensorText : String

/-- The lines of the version and the availability. -/
def openingLines (l : Labels) (g : Hardware) : List Value :=
  [.str (l.library ++ " Version: " ++ l.version), .str (l.accelerator ++ " Available: " ++ if 0 < g.count then "true" else "false")]

/-- The lines up to the number of the devices. -/
def countedLines (l : Labels) (g : Hardware) : List Value :=
  openingLines l g ++ [.str (l.accelerator ++ " Device Count: " ++ natText g.count)]

/-- The lines of an allocated tensor. -/
def closingLines (l : Labels) : List Value := [.str ("Created " ++ l.accelerator ++ " tensor successfully!"), .str l.tensorText]

/-- The lines of the section and its end. -/
def expected (l : Labels) (g : Hardware) (sizes : List Nat) (index : Int) : List Value × Except Failure Unit :=
  if Digits.fits g.count then
    if g.count = 0 then (countedLines l g, .ok ())
    else if sizesFit sizes && Digits.fits index then (countedLines l g ++ closingLines l, .ok ())
    else (countedLines l g, unwritten)
  else (openingLines l g, unwritten)

/-- The lines that are written first. -/
theorem lines_opened (library accelerator version text : String) :
    [Value.str (versionText library (.str version)), .str (availabilityText accelerator (.bool (decide (0 < g.count))))] =
      openingLines ⟨library, accelerator, version, text⟩ g := by
  have hflag : flagText (.bool (decide (0 < g.count))) = if 0 < g.count then "true" else "false" := by
    simp [flagText, isTruthy]
  rw [availabilityText, hflag]
  rfl

/-- The record of the allocation can be written where its numbers can. -/
theorem allocationRecord_ofSizes (accelerator : String) {sizes : List Nat} (hf : (sizesFit sizes && Digits.fits index) = true) :
    ∃ record, allocationRecord accelerator (ofSizes sizes) (.int index) = .ok record := by
  obtain ⟨hsizes, hindex⟩ := Bool.and_eq_true_iff.mp hf
  rw [allocationRecord, toDimensions_ofSizes hsizes, toText_int_of_fits hindex]
  exact ⟨_, rfl⟩

theorem allocationRecord_ofSizes_error (accelerator : String) {sizes : List Nat}
    (hf : (sizesFit sizes && Digits.fits index) = false) :
    allocationRecord accelerator (ofSizes sizes) (.int index) = .error .integerTooLong := by
  rw [allocationRecord]
  cases hsizes : sizesFit sizes with
  | false =>
    rw [toDimensions_ofSizes_error hsizes]
    rfl
  | true =>
    have hindex : Digits.fits index = false := by rwa [hsizes, Bool.true_and] at hf
    rw [toDimensions_ofSizes hsizes, toText_int_of_not_fits hindex]
    rfl

/-- Whether a report is that of a tensor on the device, which prints as this text. -/
def Allocated (sizes : List Nat) (device text : String) (report : DiagnosticReport) : Prop :=
  report.tensor = tensorAt sizes device text ∧ report.tensorText = .str text

/-- The allocation over a backend that serves, where the index can be written. -/
theorem reaches_allocate (hs : b.Serves w g version index host device) {sizes : List Nat} (hsizes : sizesFit sizes = true)
    (hi : Digits.fits index = true) :
    Reaches b.perform w (allocate b (ofSizes sizes) (.int index)) fun course r =>
      ∃ fresh text, course = allocation (ofSizes sizes) (.int index) fresh (tensorAt sizes device text) (.str text) ∧
        r = .ok (tensorAt sizes device text, .str text) := by
  simp only [allocate, bind_eq, pure_eq]
  refine .given (hs.made sizes hsizes) ?_
  intro fresh hfresh
  refine .given (hs.moved_of_fits hi hsizes hfresh) ?_
  rintro _ ⟨text, rfl⟩
  refine .given (hs.printed sizes device text) ?_
  rintro _ rfl
  exact .done ⟨fresh, text, rfl, rfl⟩

/-- It does not fail, so there is nothing to report. -/
theorem reaches_reported (hs : b.Serves w g version index host device) {sizes : List Nat} (hsizes : sizesFit sizes = true)
    (hi : Digits.fits index = true) :
    Reaches b.perform w (reporting (failureRecord b.accelerator) (allocate b (ofSizes sizes) (.int index))) fun course r =>
      ∃ fresh text, course = allocation (ofSizes sizes) (.int index) fresh (tensorAt sizes device text) (.str text) ∧
        r = .ok (tensorAt sizes device text, .str text) := by
  refine .reporting ((reaches_allocate hs hsizes hi).mono ?_)
  rintro _ _ ⟨fresh, text, rfl, rfl⟩
  exact ⟨fresh, text, rfl, rfl⟩

/-- The section over a backend that serves writes what is expected, and ends as expected; where there is a device, its report is that
of a tensor on the device. -/
theorem reaches_runWith (hs : b.Serves w g version index host device) (sizes : List Nat) :
    Reaches b.perform w (runWith b (ofSizes sizes) (.int index)) fun course r =>
      ∃ text, (course.lines, ending r) = expected ⟨b.name, b.accelerator, version, text⟩ g sizes index ∧
        (0 < g.count → ∀ report, r = .ok report → Allocated sizes device text report) := by
  simp only [runWith, bind_eq, pure_eq]
  refine .note (.given hs.version ?_)
  rintro _ rfl
  refine .ofValue (versionLine_of_isWritable (by simp [isWritable, hasShortIntegers, depth, depthLimit])) (.print hs.takes ?_)
  refine .given hs.available ?_
  rintro _ rfl
  refine .ofValue availabilityLine_openingReport (.print hs.takes ?_)
  refine .given hs.counted ?_
  rintro _ rfl
  have hopened (text : String) := lines_opened (g := g) b.name b.accelerator version text
  cases hn : Digits.fits g.count with
  | false =>
    have hline : (openingReport b.name b.accelerator (.str version) (.bool (decide (0 < g.count))) (.int g.count)).deviceCountLine =
        .error .integerTooLong := by
      rw [deviceCountLine_openingReport, toText_int_of_not_fits hn]
      rfl
    refine .ofValue_error hline ⟨"", ?_, fun _ _ hr => absurd hr (by simp)⟩
    rw [expected, hn, ← hopened]
    rfl
  | true =>
    refine .ofValue (deviceCountLine_of_isWritable ((isWritable_int _).trans hn)) (.print hs.takes ?_)
    by_cases hzero : g.count = 0
    · rw [Hardware.isTruthy_available_of_zero hzero, if_neg Bool.false_ne_true]
      refine .note (.done ⟨"", ?_, fun hpos => absurd hzero (Nat.ne_of_gt hpos)⟩)
      rw [expected, if_pos hn, if_pos hzero, countedLines, ← hopened]
      rfl
    rw [Hardware.isTruthy_available_of_ne hzero, if_pos rfl]
    cases hf : sizesFit sizes && Digits.fits index with
    | false =>
      refine .ofValue_error (allocationRecord_ofSizes_error b.accelerator hf) ⟨"", ?_, fun _ _ hr => absurd hr (by simp)⟩
      rw [expected, if_pos hn, if_neg hzero, hf, countedLines, ← hopened]
      rfl
    | true =>
      obtain ⟨hsizes, hindex⟩ := Bool.and_eq_true_iff.mp hf
      obtain ⟨record, hrecord⟩ := allocationRecord_ofSizes b.accelerator hf
      refine .ofValue hrecord (.note (.bind (reaches_reported hs hsizes hindex) ?_ ?_))
      · rintro _ _ ⟨fresh, text, rfl, hr⟩
        cases hr
        refine .ofValue confirmationLine_closingReport (.print hs.takes (.print hs.takes (.done ⟨text, ?_, ?_⟩)))
        · rw [expected, if_pos hn, if_neg hzero, hf, countedLines, ← hopened]
          rfl
        · rintro _ _ ⟨⟩
          exact ⟨rfl, rfl⟩
      · rintro _ _ ⟨_, _, _, hr⟩
        cases hr

/-- The section for a shape with these sizes. -/
theorem reaches_run (hs : b.Serves w g version index host device) {shape : Value} {sizes : List Nat}
    (hshape : shape.items = .ok (ofSizes sizes)) :
    Reaches b.perform w (run b shape (.int index)) fun course r =>
      ∃ text, (course.lines, ending r) = expected ⟨b.name, b.accelerator, version, text⟩ g sizes index ∧
        (0 < g.count → ∀ report, r = .ok report → Allocated sizes device text report) :=
  .ofValue hshape (reaches_runWith hs sizes)

/-- The lines that are expected are as many for every library, and the end is the same. -/
theorem expected_alike (l l' : Labels) (g : Hardware) (sizes : List Nat) (index : Int) :
    (expected l g sizes index).1.length = (expected l' g sizes index).1.length ∧
      (expected l g sizes index).2 = (expected l' g sizes index).2 := by
  unfold expected
  split
  · split
    · exact ⟨rfl, rfl⟩
    · split
      · exact ⟨rfl, rfl⟩
      · exact ⟨rfl, rfl⟩
  · exact ⟨rfl, rfl⟩

end Diagnostic

namespace Environment

/-- The lines of the reported variables. -/
def settingLines (env : AccelProbe.Environment) : List String :=
  Environment.reported.map fun name => name ++ ": " ++ (env.value? name).getD EnvironmentReport.unsetText

/-- The lines of the devices. -/
def deviceSection (names : List String) : List String :=
  if names.isEmpty then []
  else EnvironmentReport.devicesHeading :: names.zipIdx.map fun entry => "Device " ++ natText entry.2 ++ ": " ++ entry.1

/-- The lines of the section, for a library with these capabilities. -/
def expected (env : AccelProbe.Environment) (capabilities : List (String × Value)) (names : List String) : List String :=
  EnvironmentReport.variablesHeading :: settingLines env ++
    EnvironmentReport.capabilitiesHeading :: capabilities.map EnvironmentReport.capabilityLine ++ deviceSection names

/-- A variable can always be written, whether it is set or not. -/
theorem variableLine_elim (name : String) (value : Option String) :
    EnvironmentReport.variableLine (name, value.elim Value.null .str) = .ok (name ++ ": " ++ value.getD EnvironmentReport.unsetText) := by
  cases value with
  | none => rfl
  | some text =>
    change (do
      let text ← (Value.str text).toText
      return name ++ ": " ++ text) = _
    rw [toText_str]
    rfl

/-- The variables can always be written. -/
theorem mapM_variableLine (env : AccelProbe.Environment) :
    (Environment.reported.map fun name => (name, (env.value? name).elim Value.null .str)).mapM EnvironmentReport.variableLine =
      .ok (settingLines env) := by
  rw [List.mapM_map]
  exact mapM_eq_ok_map fun name _ => variableLine_elim name (env.value? name)

/-- The names of devices can always be written. -/
theorem deviceLines_names (names : List String) :
    EnvironmentReport.deviceLines (.list (names.map .str)) = .ok (deviceSection names) := by
  cases names with
  | nil => rfl
  | cons name names =>
    have hlines : ((name :: names).map Value.str).zipIdx.mapM (fun entry => EnvironmentReport.deviceLine entry.1 entry.2) =
        .ok ((name :: names).zipIdx.map fun entry => "Device " ++ natText entry.2 ++ ": " ++ entry.1) := by
      rw [List.zipIdx_map, List.mapM_map]
      refine mapM_eq_ok_map ?_
      rintro ⟨name, index⟩ _
      change EnvironmentReport.deviceLine (.str name) index = _
      rw [EnvironmentReport.deviceLine, toText_str]
      rfl
    change (do
      let lines ← ((name :: names).map Value.str).zipIdx.mapM fun (entry : Value × Nat) => EnvironmentReport.deviceLine entry.1 entry.2
      return EnvironmentReport.devicesHeading :: lines) = _
    rw [hlines]
    rfl

/-- The section over a backend that serves has a report, with the lines that are expected. -/
theorem reaches_run (hs : b.Serves w g version index host device) (env : AccelProbe.Environment) :
    Reaches b.perform w (run b env) fun course r =>
      ∃ capabilities, (course.lines, ending r) = ((expected env capabilities g.names).map .str, .ok ()) := by
  simp only [run, bind_eq, pure_eq]
  refine .given hs.built ?_
  rintro _ ⟨capabilities, rfl⟩
  have hnames : Reaches b.perform w (deviceNames b) fun course r => course.lines = [] ∧ r = .ok (.list (g.names.map .str)) := by
    simp only [deviceNames, bind_eq, pure_eq]
    refine .given hs.available ?_
    rintro _ rfl
    by_cases hzero : g.count = 0
    · have hnone : g.names = [] := List.length_eq_zero_iff.mp hzero
      rw [Hardware.isTruthy_available_of_zero hzero, if_neg Bool.false_ne_true, hnone]
      exact .done ⟨rfl, rfl⟩
    · rw [Hardware.isTruthy_available_of_ne hzero, if_pos rfl, ← bind_done (b.perform .deviceNames)]
      refine .given hs.named ?_
      rintro _ rfl
      exact .done ⟨rfl, rfl⟩
  have hlines : (reportOn env (.dictionary capabilities) (.list (g.names.map .str))).lines =
      .ok (expected env capabilities g.names) := by
    simp only [EnvironmentReport.lines, reportOn, settings, Value.entries, Bind.bind, Except.bind, mapM_variableLine,
      deviceLines_names]
    rfl
  refine .bind hnames ?_ ?_
  · rintro course _ ⟨hcourse, hr⟩
    cases hr
    have hcount : (Value.list (g.names.map .str)).length = .ok g.names.length := by rw [Value.length, List.length_map]
    refine .ofValue hcount (.note (.ofValue hlines (.printAll hs.takes (.done ⟨capabilities, ?_⟩))))
    refine Prod.ext ?_ rfl
    change History.lines (course ++ .logged _ :: (History.ofLines _ ++ [])) = _
    rw [List.append_nil, History.lines_append, hcourse, List.nil_append]
    exact History.lines_ofLines _
  · rintro _ _ ⟨_, hr⟩
    cases hr

end Environment

namespace Compute

/-- The lines of the report of a product. -/
def passedLines (accelerator : String) (g : Hardware) (size : Nat) (index : Int) : List String :=
  ["=== Compute Check ===",
    "Matrix Multiplication: " ++ sizesText [size, size] ++ " on " ++ accelerator ++ " device " ++ intText index,
    "Result Shape: " ++ sizesText [size, size], "Mean: " ++ Fixed.text 4 (g.mean [size, size]),
    "Max: " ++ Fixed.text 4 (g.greatest [size, size]), "Min: " ++ Fixed.text 4 (g.least [size, size]),
    accelerator ++ " compute check passed!"]

/-- The lines of the section and its end. -/
def expected (accelerator : String) (g : Hardware) (size : Nat) (index : Int) : List Value × Except Failure Unit :=
  if g.count = 0 then ([.str (skippedLine accelerator)], .ok ())
  else if Digits.fits size && Digits.fits index then ((passedLines accelerator g size index).map .str, .ok ())
  else ([], unwritten)

/-- Whether a report is that of a course in which a matrix was made on the host, moved to the device and multiplied there, and the
statistics were taken of the copy of the product on the host. -/
structure ReportOf (size : Nat) (index : Int) (host device : String) (course : History Query) (report : ComputeReport) : Prop where
  /-- The matrix is a square. -/
  input : report.inputShape = .tuple (ofSizes [size, size])
  /-- So is the product. -/
  result : report.resultShape = .tuple (ofSizes [size, size])
  /-- The questions with their answers, and where the tensors lie. -/
  computed : ∃ available fresh matrix product copy,
    course.exchanges = (plan (.int size) (.int index) available fresh matrix product copy report.statistics).map
        (fun step => (step.1, .ok step.2)) ∧
      fresh.LiesAt [size, size] host ∧ matrix.LiesAt [size, size] device ∧ product.LiesAt [size, size] device ∧
      copy.LiesAt [size, size] host

/-- The statistics that the hardware leads one to expect. -/
def statisticsOf (g : Hardware) (size : Nat) : Value :=
  .dictionary [("Mean", .float (g.mean [size, size])), ("Max", .float (g.greatest [size, size])),
    ("Min", .float (g.least [size, size]))]

/-- The report can be written where its numbers can. -/
theorem lines_reportOn (accelerator : String) (g : Hardware) {size : Nat}
    (hsize : sizesFit [size, size] = true) (hi : Digits.fits index = true) :
    (reportOn accelerator (.int size) (.int index) (ofSizes [size, size]) (statisticsOf g size)).lines =
      .ok (passedLines accelerator g size index) := by
  have hinput : toDimensions [.int size, .int size] = .ok (sizesText [size, size]) := toDimensions_ofSizes hsize
  have hindex := toText_int_of_fits hi
  simp only [ComputeReport.lines, reportOn, Value.items, statisticsOf, Value.entries, Bind.bind, Except.bind,
    ComputeReport.multiplicationLine, ofSizes, List.map_cons, List.map_nil, hinput, toText_str, hindex, ComputeReport.resultLine,
    ComputeReport.passedLine]
  rfl

theorem lines_reportOn_error (accelerator : String) (g : Hardware) {size : Nat}
    (hsize : sizesFit [size, size] = true) (hi : Digits.fits index = false) :
    (reportOn accelerator (.int size) (.int index) (ofSizes [size, size]) (statisticsOf g size)).lines =
      .error .integerTooLong := by
  have hinput : toDimensions [.int size, .int size] = .ok (sizesText [size, size]) := toDimensions_ofSizes hsize
  have hindex := toText_int_of_not_fits hi
  simp only [ComputeReport.lines, reportOn, Value.items, Bind.bind, Except.bind, ComputeReport.multiplicationLine, hinput,
    toText_str, hindex]

/-- What the multiplication comes to on this hardware. -/
inductive Multiplied (g : Hardware) (size : Nat) (index : Int) (host device : String) :
    History Query → Except Failure (Value × Value) → Prop where
  /-- It is gone through. -/
  | done {fresh matrix product copy : Value} (hfresh : fresh.LiesAt [size, size] host)
      (hmatrix : matrix.LiesAt [size, size] device) (hproduct : product.LiesAt [size, size] device)
      (hcopy : copy.LiesAt [size, size] host) :
      Multiplied g size index host device
        (multiplication (.int size) (.int index) fresh matrix product copy (statisticsOf g size))
        (.ok (copy, statisticsOf g size))
  /-- The matrix is not moved, for the index cannot be written. -/
  | unmoved {course : History Query} (hi : Digits.fits index = false) (hlines : course.lines = []) :
      Multiplied g size index host device course (.error (.value .integerTooLong))

/-- The multiplication over a backend that serves. -/
theorem reaches_multiply (hs : b.Serves w g version index host device) {size : Nat} (hm : b.Measures w g [size, size] host)
    (hsize : sizesFit [size, size] = true) :
    Reaches b.perform w (multiply b (.tuple [.int size, .int size]) (.int index)) (Multiplied g size index host device) := by
  simp only [multiply, bind_eq, pure_eq]
  refine .given (hs.made [size, size] hsize) ?_
  intro fresh hfresh
  refine .call (hs.moved [size, size] fresh hsize hfresh) ?_ ?_
  · rintro matrix (⟨_, hr, hmatrix⟩ | ⟨_, hr⟩)
    case inr => cases hr
    cases hr
    refine .given (hs.multiplied size size matrix hsize hmatrix) ?_
    intro product hproduct
    refine .given (hs.copied [size, size] product hsize hproduct) ?_
    intro copy hcopy
    refine .given (hm copy hcopy) ?_
    rintro _ rfl
    exact .done (.done hfresh hmatrix hproduct hcopy)
  · rintro e (⟨_, hr, _⟩ | ⟨hi, hr⟩)
    · cases hr
    · cases hr
      exact .unmoved hi rfl

/-- The report of a failure changes nothing of that but the records. -/
theorem reaches_reported (hs : b.Serves w g version index host device) {size : Nat} (hm : b.Measures w g [size, size] host)
    (hsize : sizesFit [size, size] = true) :
    Reaches b.perform w
      (reporting (failureRecord b.accelerator) (multiply b (.tuple [.int size, .int size]) (.int index)))
      (Multiplied g size index host device) := by
  refine .reporting ((reaches_multiply hs hm hsize).mono ?_)
  intro course r hmultiplied
  cases hmultiplied with
  | done hfresh hmatrix hproduct hcopy => exact .done hfresh hmatrix hproduct hcopy
  | unmoved hi hlines =>
    have hsame : afterReport (failureRecord b.accelerator) (.value .integerTooLong) = .value .integerTooLong :=
      afterReport_of_message _ ⟨_, rfl⟩
    change Multiplied g size index host device _ (.error (afterReport _ _))
    rw [hsame]
    refine .unmoved hi ?_
    rw [History.lines_append, hlines, History.lines_map_logged]
    rfl

/-- The section over a backend that serves writes what is expected, and ends as expected; a report is that of a computation on the
device. -/
theorem reaches_run (hs : b.Serves w g version index host device) (size : Nat) (hm : b.Measures w g [size, size] host) :
    Reaches b.perform w (run b (.int size) (.int index)) fun course r =>
      (course.lines, ending r) = expected b.accelerator g size index ∧
        (0 < g.count → ∀ report, r = .ok report → ∃ made, report = some made ∧ ReportOf size index host device course made) := by
  simp only [run, bind_eq, pure_eq]
  refine .given hs.available ?_
  rintro _ rfl
  by_cases hzero : g.count = 0
  · rw [Hardware.isTruthy_available_of_zero hzero, if_neg Bool.false_ne_true]
    refine .print hs.takes (.done ⟨?_, fun hpos => absurd hzero (Nat.ne_of_gt hpos)⟩)
    rw [expected, if_pos hzero]
    rfl
  rw [Hardware.isTruthy_available_of_ne hzero, if_pos rfl]
  cases hsize : Digits.fits size with
  | false =>
    have hrecord : multiplicationRecord b.accelerator (.int size) = .error .integerTooLong := by
      rw [multiplicationRecord, toText_int_of_not_fits hsize]
      rfl
    refine .ofValue_error hrecord ⟨?_, fun _ _ hr => absurd hr (by simp)⟩
    rw [expected, if_neg hzero, hsize, Bool.false_and]
    rfl
  | true =>
    have hsizes : sizesFit [size, size] = true := by simp [sizesFit, hsize]
    obtain ⟨record, hrecord⟩ : ∃ record, multiplicationRecord b.accelerator (.int size) = .ok record := by
      rw [multiplicationRecord, toText_int_of_fits hsize]
      exact ⟨_, rfl⟩
    refine .ofValue hrecord (.note (.bind (reaches_reported hs hm hsizes) ?_ ?_))
    · intro course _ hmultiplied
      obtain ⟨hfresh, hmatrix, hproduct, copied, rfl⟩ := hmultiplied
      refine .ofValue (b := ofSizes [size, size]) rfl ?_
      cases hi : Digits.fits index with
      | false =>
        refine .ofValue_error (lines_reportOn_error b.accelerator g hsizes hi) ⟨?_, fun _ _ hr => absurd hr (by simp)⟩
        rw [expected, if_neg hzero, hsize, hi]
        rfl
      | true =>
        refine .ofValue (lines_reportOn b.accelerator g hsizes hi) (.printAll hs.takes (.done ⟨?_, ?_⟩))
        · rw [expected, if_neg hzero, hsize, hi]
          refine Prod.ext ?_ rfl
          rw [List.append_nil]
          exact History.lines_ofLines _
        · rintro _ _ ⟨⟩
          refine ⟨_, rfl, rfl, rfl, .bool (decide (0 < g.count)), _, _, _, _, ?_, hfresh, hmatrix, hproduct, ⟨copied, rfl⟩⟩
          rw [List.append_nil]
          exact exchanges_multiplied _ _ _ _ _ _ _ _ _ (History.exchanges_ofLines _)
    · intro course e hmultiplied
      cases hmultiplied with
      | unmoved hi hlines =>
        refine ⟨?_, fun _ _ hr => absurd hr (by simp)⟩
        rw [expected, if_neg hzero, hsize, hi]
        exact Prod.ext hlines rfl

/-- The lines that are expected are as many for every library, and the end is the same. -/
theorem expected_alike (accelerator accelerator' : String) (g : Hardware) (size : Nat) (index : Int) :
    (expected accelerator g size index).1.length = (expected accelerator' g size index).1.length ∧
      (expected accelerator g size index).2 = (expected accelerator' g size index).2 := by
  unfold expected
  split
  · exact ⟨rfl, rfl⟩
  · split
    · exact ⟨rfl, rfl⟩
    · exact ⟨rfl, rfl⟩

end Compute

end Section

end AccelProbe
