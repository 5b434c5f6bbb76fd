import AccelProbe.Proofs.Basic
import AccelProbe.Proofs.Section.Expansion

/-!
# Sections that move a tensor

Two lines say that a tensor could be used on the accelerator of TensorFlow. A section is `Careful` with them when it writes them only
after a tensor has been moved, and when a move that fails is its end but for the report. The ways of all three sections are careful:
what leads to a move is `Harmless`, and the move itself is a course of questions that `Serves` the device.
-/

namespace AccelProbe

/-- The lines that say that a tensor could be used on the accelerator of TensorFlow. -/
def successTexts : List String := ["Created GPU tensor successfully!", "GPU compute check passed!"]

namespace Event

/-- Whether an event neither moves a tensor, nor says that one could be used, nor tells of an error. -/
def Harmless : Event Query → Prop
  | .called q _ => ∀ tensor index, q ≠ .toAccelerator tensor index
  | .wrote line _ => ∀ text ∈ successTexts, line ≠ .str text
  | .logged record => record.level ≠ Level.error

/-- Whether an event is a question that moves a tensor to no other device than the one with this index. -/
def Serves (index : Value) : Event Query → Prop
  | .called q _ => ∀ tensor i, q = .toAccelerator tensor i → i = index
  | _ => False

/-- What came of an event does not matter to whether it is harmless. -/
theorem Harmless.failing {event : Event Query} (h : event.Harmless) (e : Failure) : (event.failing e).Harmless := by
  cases event with
  | called q reply => exact h
  | wrote line taken => exact h
  | logged record => exact h

end Event

/-- Whether nothing in a history moves a tensor, says that one could be used, or tells of an error. -/
def History.Harmless (h : History Query) : Prop := ∀ event ∈ h, event.Harmless

namespace History.Harmless

variable {h h' : History Query} {event : Event Query}

theorem singleton (he : event.Harmless) : History.Harmless [event] := List.forall_mem_singleton.mpr he

theorem cons (he : event.Harmless) (hh : Harmless h) : History.Harmless (event :: h) := List.forall_mem_cons.mpr ⟨he, hh⟩

theorem append (hh : Harmless h) (hh' : Harmless h') : History.Harmless (h ++ h') := List.forall_mem_append.mpr ⟨hh, hh'⟩

/-- A harmless course is harmless wherever it is cut. -/
theorem cut {course : History Query} {e : Failure} (hcourse : Harmless course) (hc : Cut course h e) : Harmless h := by
  intro event hm
  rcases hc.mem hm with hm | ⟨planned, hplanned, rfl⟩
  · exact hcourse event hm
  · exact (hcourse planned hplanned).failing e

end History.Harmless

namespace Section

open Program

/-- Whether a section that reports its failures in this way is careful with the tensor that it moves to the device with this
index. -/
structure Careful {α : Type} (index : Value) (record : Failure → Except Value.Fault LogRecord) (h : History Query)
    (r : Except Failure α) : Prop where
  /-- A tensor is moved to no other device. -/
  index_eq : ∀ tensor i reply, .called (.toAccelerator tensor i) reply ∈ h → i = index
  /-- A line of success is written only after a tensor was moved. -/
  moved : ∀ before after text taken, h = before ++ .wrote (.str text) taken :: after → text ∈ successTexts →
    ∃ fresh tensor, .called (.toAccelerator fresh index) (.ok tensor) ∈ before
  /-- After a move that failed there is nothing but its report, and there was no record of an error before. -/
  stopped : ∀ before after fresh e, h = before ++ .called (.toAccelerator fresh index) (.error e) :: after →
    after = (reportOf record e).map .logged ∧ r = .error (afterReport record e) ∧
      ∀ earlier ∈ History.records before, earlier.level ≠ Level.error

namespace Careful

variable {α : Type} {index : Value} {record : Failure → Except Value.Fault LogRecord} {h lead rest course : History Query}
  {r : Except Failure α} {e : Failure}

/-- A section of harmless events is careful. -/
theorem of_harmless (hh : History.Harmless h) : Careful index record h r where
  index_eq tensor i reply hm := absurd rfl (hh _ hm tensor i)
  moved before after text taken hs ht := by
    have hline := hh (.wrote (.str text) taken) (by simp [hs])
    exact absurd rfl (hline text ht)
  stopped before after fresh e hs := by
    have hcall := hh (.called (.toAccelerator fresh index) (.error e)) (by simp [hs])
    exact absurd rfl (hcall fresh index)

/-- A section that has moved its tensor, and asks nothing more, is careful. -/
theorem of_moved (hlead : History.Harmless lead) (hcourse : ∀ event ∈ course, event.Serves index)
    (hok : ∀ q e, .called q (.error e) ∉ course) {fresh tensor : Value}
    (hmoved : .called (.toAccelerator fresh index) (.ok tensor) ∈ course) (hrest : ∀ q reply, .called q reply ∉ rest) :
    Careful index record (lead ++ (course ++ rest)) r where
  index_eq tensor i reply hm := by
    simp only [List.mem_append, hrest, or_false] at hm
    rcases hm with hm | hm
    · exact absurd rfl (hlead _ hm tensor i)
    · exact hcourse _ hm tensor i rfl
  moved before after text taken hh ht := by
    rw [← List.append_assoc] at hh
    have hn : .wrote (.str text) taken ∉ lead ++ course := by
      intro hm
      rcases List.mem_append.mp hm with hm | hm
      · exact hlead _ hm text ht rfl
      · exact hcourse _ hm
    obtain ⟨more, rfl, -⟩ := History.split_of_notMem hh hn
    exact ⟨fresh, tensor, List.mem_append_left _ (List.mem_append_right _ hmoved)⟩
  stopped before after fresh e hh := by
    have hm : .called (.toAccelerator fresh index) (.error e) ∈ lead ++ (course ++ rest) := by simp [hh]
    simp only [List.mem_append, hrest, hok, or_false] at hm
    exact absurd rfl (hlead _ hm fresh index)

/-- A section whose move is cut, and that reports it, is careful. -/
theorem of_stopped (hlead : History.Harmless lead) (hcourse : ∀ event ∈ course, event.Serves index)
    (hok : ∀ q e, .called q (.error e) ∉ course) (hc : Cut course h e) :
    Careful index record (lead ++ (h ++ (reportOf record e).map .logged)) (.error (afterReport record e) : Except Failure α) where
  index_eq tensor i reply hm := by
    simp only [List.mem_append, List.mem_map, reduceCtorEq, and_false, exists_false, or_false] at hm
    rcases hm with hm | hm
    · exact absurd rfl (hlead _ hm tensor i)
    · obtain ⟨planned, hm⟩ := hc.exists_called hm
      exact hcourse _ hm tensor i rfl
  moved before after text taken hh ht := by
    have hm : .wrote (.str text) taken ∈ lead ++ (h ++ (reportOf record e).map .logged) := by simp [hh]
    simp only [List.mem_append, List.mem_map, reduceCtorEq, and_false, exists_false, or_false] at hm
    rcases hm with hm | hm
    · exact absurd rfl (hlead _ hm text ht)
    · obtain ⟨planned, hm⟩ := hc.exists_wrote hm
      exact (hcourse _ hm).elim
  stopped before after fresh e' hh := by
    have hn : .called (.toAccelerator fresh index) (.error e') ∉ lead := fun hm => hlead _ hm fresh index rfl
    obtain ⟨rfl, rfl, started, hstarted, rfl⟩ := hc.stopped hok hn hh
    refine ⟨rfl, rfl, ?_⟩
    intro earlier hm
    rw [History.mem_records_iff] at hm
    rcases List.mem_append.mp hm with hm | hm
    · exact hlead _ hm
    · exact (hcourse _ (hstarted.subset hm)).elim

end Careful

/-- A text with a colon is not a line of success. -/
theorem notMem_successTexts {text : String} (h : ':' ∈ text.toList) : text ∉ successTexts := by
  have hnone : ∀ text ∈ successTexts, ':' ∉ text.toList := by decide
  intro hm
  exact hnone text hm h

/-- A line that is not one of success is harmless. -/
theorem harmless_wrote {text : String} {taken : Taken} (h : text ∉ successTexts) : (Event.wrote (.str text) taken).Harmless := by
  intro other hm heq
  obtain rfl := Value.str.inj heq
  exact h hm

/-! ## The diagnostic section -/

namespace Diagnostic

variable {sizes : List Value} {index version available count fresh tensor text : Value} {h : History Query}

/-- The opening asks its questions and writes what came of them. -/
theorem harmless_opening {library accelerator : String} :
    History.Harmless (opening library accelerator version available count) := by
  intro event hm
  simp only [opening, question, List.mem_cons, List.mem_append, List.not_mem_nil, or_false] at hm
  rcases hm with rfl | (rfl | rfl) | (rfl | rfl) | rfl | rfl
  · exact (by decide : Level.debug ≠ Level.error)
  · intro _ _ hq
    cases hq
  · exact harmless_wrote (notMem_successTexts (by simp [versionText]))
  · intro _ _ hq
    cases hq
  · exact harmless_wrote (notMem_successTexts (by simp [availabilityText]))
  · intro _ _ hq
    cases hq
  · exact harmless_wrote (notMem_successTexts (by simp [countText]))

/-- The record of the allocation is harmless. -/
theorem harmless_allocationRecord {accelerator : String} {record : LogRecord}
    (h : allocationRecord accelerator sizes index = .ok record) : (Event.logged record).Harmless := by
  obtain ⟨shape, -, h⟩ := exists_of_bind_eq_ok h
  obtain ⟨text, -, h⟩ := exists_of_bind_eq_ok h
  cases h
  exact (by decide : Level.info ≠ Level.error)

/-- The allocation moves its tensor to the device with its index. -/
theorem serves_allocation : ∀ event ∈ allocation sizes index fresh tensor text, event.Serves index := by
  intro event hm
  simp only [allocation, List.mem_cons, List.not_mem_nil, or_false] at hm
  rcases hm with rfl | rfl | rfl
  · intro _ _ hq
    cases hq
  · intro _ i hq
    exact (Query.toAccelerator.inj hq).2.symm
  · intro _ _ hq
    cases hq

/-- What leads to the allocation is harmless. -/
theorem harmless_lead {library accelerator : String} {record : LogRecord}
    (hr : allocationRecord accelerator sizes index = .ok record) :
    History.Harmless (opening library accelerator version available count ++ [.logged record]) :=
  harmless_opening.append (.singleton (harmless_allocationRecord hr))

/-- A section that has allocated its tensor, and asks nothing more, is careful. -/
theorem careful_of_allocated {record : LogRecord} {rest : History Query} {r : Except Failure DiagnosticReport}
    (hr : allocationRecord "GPU" sizes index = .ok record) (hrest : ∀ q reply, .called q reply ∉ rest) :
    Careful index (failureRecord "GPU")
      (opening "TensorFlow" "GPU" version available count ++ .logged record :: (allocation sizes index fresh tensor text ++ rest))
      r := by
  have hmoved : .called (.toAccelerator fresh index) (.ok tensor) ∈ allocation sizes index fresh tensor text := by
    simp [allocation]
  rw [List.append_cons]
  exact .of_moved (harmless_lead hr) serves_allocation (by simp [allocation]) hmoved hrest

/-- The ways of the section over TensorFlow are careful. -/
theorem Way.careful {r : Except Failure DiagnosticReport} (hway : Way "TensorFlow" "GPU" sizes index h r) :
    Careful index (failureRecord "GPU") h r := by
  cases hway with
  | unopened version available count hc => exact .of_harmless (harmless_opening.cut hc)
  | unwritable version available count hp hq hv =>
    exact .of_harmless fun event hm => harmless_opening event (hp.subset hm)
  | skipped version available count hv hn ha =>
    have hskipped : (Event.logged (skippedRecord "GPU")).Harmless := (by decide : Level.info ≠ Level.error)
    exact .of_harmless (harmless_opening.append (.singleton hskipped))
  | unrecorded version available count ha hr => exact .of_harmless harmless_opening
  | unallocated version available count fresh tensor text ha hr hc =>
    rw [List.append_cons]
    exact .of_stopped (harmless_lead hr) serves_allocation (by simp [allocation]) hc
  | unclosed version available count fresh tensor text ha hr hc =>
    refine careful_of_allocated hr ?_
    intro q reply hm
    obtain ⟨planned, hm⟩ := hc.exists_called hm
    simp [closing] at hm
  | allocated version available count fresh tensor text hv hn ha hr => exact careful_of_allocated hr (by simp [closing])

end Diagnostic

/-! ## The compute section -/

namespace Compute

variable {size index available fresh matrix product copy statistics : Value} {record : LogRecord} {h : History Query}

/-- The question for an accelerator is harmless. -/
theorem harmless_question (reply : Reply) : (Event.called .isAvailable reply).Harmless := nofun

/-- The line of a section that was skipped is harmless. -/
theorem harmless_skippedLine (taken : Taken) : (Event.wrote (.str (skippedLine "GPU")) taken).Harmless :=
  harmless_wrote (by decide)

/-- What leads to the multiplication is harmless. -/
theorem harmless_lead {accelerator : String} (hr : multiplicationRecord accelerator size = .ok record) :
    History.Harmless [.called .isAvailable (.ok available), .logged record] := by
  obtain ⟨text, -, rfl⟩ := exists_of_map_eq_ok hr
  exact .cons (harmless_question _) (.singleton (by decide : Level.info ≠ Level.error))

/-- The multiplication moves its matrix to the device with its index. -/
theorem serves_multiplication :
    ∀ event ∈ multiplication size index fresh matrix product copy statistics, event.Serves index := by
  intro event hm
  simp only [multiplication, List.mem_cons, List.not_mem_nil, or_false] at hm
  rcases hm with rfl | rfl | rfl | rfl | rfl
  case inr.inl =>
    intro _ i hq
    exact (Query.toAccelerator.inj hq).2.symm
  all_goals exact nofun

/-- A section that has multiplied, and asks nothing more, is careful. -/
theorem careful_of_multiplied {rest : History Query} {r : Except Failure (Option ComputeReport)}
    (hr : multiplicationRecord "GPU" size = .ok record) (hrest : ∀ q reply, .called q reply ∉ rest) :
    Careful index (failureRecord "GPU")
      (.called .isAvailable (.ok available) :: .logged record ::
        (multiplication size index fresh matrix product copy statistics ++ rest))
      r := by
  have hmoved : .called (.toAccelerator fresh index) (.ok matrix) ∈
      multiplication size index fresh matrix product copy statistics := by
    simp [multiplication]
  exact .of_moved (harmless_lead hr) serves_multiplication (by simp [multiplication]) hmoved hrest

/-- The ways of the section over TensorFlow are careful. -/
theorem Way.careful {r : Except Failure (Option ComputeReport)} (hway : Way "GPU" size index h r) :
    Careful index (failureRecord "GPU") h r := by
  cases hway with
  | unasked e => exact .of_harmless (.singleton (harmless_question _))
  | unskipped available e ha => exact .of_harmless (.cons (harmless_question _) (.singleton (harmless_skippedLine _)))
  | skipped available ha => exact .of_harmless (.cons (harmless_question _) (.singleton (harmless_skippedLine _)))
  | unrecorded available ha hr => exact .of_harmless (.singleton (harmless_question _))
  | unmultiplied available fresh matrix product copy statistics ha hr hc =>
    exact .of_stopped (harmless_lead hr) serves_multiplication (by simp [multiplication]) hc
  | shapeless available fresh matrix product copy statistics ha hr hs =>
    rw [← List.append_nil (multiplication size index fresh matrix product copy statistics)]
    exact careful_of_multiplied hr fun q reply => List.not_mem_nil
  | unwritable available fresh matrix product copy statistics ha hr hs hl =>
    rw [← List.append_nil (multiplication size index fresh matrix product copy statistics)]
    exact careful_of_multiplied hr fun q reply => List.not_mem_nil
  | unreported available fresh matrix product copy statistics ha hr hs hl hc =>
    refine careful_of_multiplied hr ?_
    intro q reply hm
    obtain ⟨planned, hm⟩ := hc.exists_called hm
    simp [History.ofLines] at hm
  | passed available fresh matrix product copy statistics ha hr hs hl =>
    exact careful_of_multiplied hr (by simp [History.ofLines])

end Compute

/-! ## The environment section -/

namespace Environment

variable {accelerator : String} {index : Value} {env : AccelProbe.Environment} {h : History Query}

theorem notMem_of_variableLine {entry : String × Value} {text : String} (h : EnvironmentReport.variableLine entry = .ok text) :
    text ∉ successTexts := by
  unfold EnvironmentReport.variableLine at h
  split at h
  · cases h
    exact notMem_successTexts (by simp)
  · obtain ⟨value, -, h⟩ := exists_of_bind_eq_ok h
    cases h
    exact notMem_successTexts (by simp)

theorem notMem_of_deviceLine {name : Value} {index : Nat} {text : String}
    (h : EnvironmentReport.deviceLine name index = .ok text) : text ∉ successTexts := by
  obtain ⟨value, -, h⟩ := exists_of_bind_eq_ok h
  cases h
  exact notMem_successTexts (by simp)

theorem notMem_of_mem_deviceLines {names : Value} {devices : List String}
    (hdevices : EnvironmentReport.deviceLines names = .ok devices) : ∀ text ∈ devices, text ∉ successTexts := by
  unfold EnvironmentReport.deviceLines at hdevices
  split at hdevices
  · obtain ⟨items, -, hdevices⟩ := exists_of_bind_eq_ok hdevices
    obtain ⟨lines, hlines, hdevices⟩ := exists_of_bind_eq_ok hdevices
    cases hdevices
    refine List.forall_mem_cons.mpr ⟨by decide, ?_⟩
    intro text hm
    obtain ⟨entry, -, hentry⟩ := exists_of_mem_mapM hlines text hm
    exact notMem_of_deviceLine hentry
  · cases hdevices
    exact nofun

/-- No line of the report is one of success: it is a heading, or it has a colon. -/
theorem notMem_of_mem_lines {report : EnvironmentReport} {lines : List String} (hl : report.lines = .ok lines) :
    ∀ text ∈ lines, text ∉ successTexts := by
  obtain ⟨entries, -, hl⟩ := exists_of_bind_eq_ok hl
  obtain ⟨settings, hsettings, hl⟩ := exists_of_bind_eq_ok hl
  obtain ⟨capabilities, -, hl⟩ := exists_of_bind_eq_ok hl
  obtain ⟨devices, hdevices, hl⟩ := exists_of_bind_eq_ok hl
  cases hl
  intro text hm
  simp only [List.cons_append, List.mem_cons, List.mem_append] at hm
  rcases hm with rfl | (hm | rfl | hm) | hm
  · decide
  · obtain ⟨entry, -, hentry⟩ := exists_of_mem_mapM hsettings text hm
    exact notMem_of_variableLine hentry
  · decide
  · obtain ⟨entry, -, rfl⟩ := List.mem_map.mp hm
    exact notMem_successTexts (by simp [EnvironmentReport.capabilityLine])
  · exact notMem_of_mem_deviceLines hdevices text hm

/-- The questions of the section move no tensor. -/
theorem harmless_inventory {buildInfo available names : Value} :
    History.Harmless (inventory buildInfo available names) := by
  refine .append (.cons nofun (.singleton nofun)) ?_
  split
  · exact .singleton nofun
  · exact nofun

/-- What leads to the report is harmless. -/
theorem harmless_lead {buildInfo available names : Value} {count : Nat} :
    History.Harmless (inventory buildInfo available names ++ [.logged (countRecord accelerator count)]) :=
  harmless_inventory.append (.singleton (by decide : Level.debug ≠ Level.error))

/-- The lines of a report are harmless. -/
theorem harmless_ofLines {report : EnvironmentReport} {lines : List String} (hl : report.lines = .ok lines) :
    History.Harmless (.ofLines (lines.map .str)) := by
  intro event hm
  simp only [History.ofLines, List.map_map, List.mem_map, Function.comp_apply] at hm
  obtain ⟨line, hline, rfl⟩ := hm
  exact harmless_wrote (notMem_of_mem_lines hl line hline)

/-- The ways of the section are careful: no tensor is moved. -/
theorem Way.careful {record : Failure → Except Value.Fault LogRecord} {r : Except Failure EnvironmentReport}
    (hway : Way accelerator env h r) : Careful index record h r := by
  cases hway with
  | unasked buildInfo available names hc => exact .of_harmless (harmless_inventory.cut hc)
  | uncounted buildInfo available names hn hl => exact .of_harmless harmless_inventory
  | unwritable buildInfo available names hn hl hr => exact .of_harmless harmless_lead
  | unreported buildInfo available names hn hl hr hc =>
    rw [List.append_cons]
    exact .of_harmless (harmless_lead.append ((harmless_ofLines hr).cut hc))
  | reported buildInfo available names hn hl hr =>
    rw [List.append_cons]
    exact .of_harmless (harmless_lead.append (harmless_ofLines hr))

end Environment

end Section

end AccelProbe
