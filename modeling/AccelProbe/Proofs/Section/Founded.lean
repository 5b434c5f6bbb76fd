import AccelProbe.Proofs.Basic
import AccelProbe.Proofs.Section.Errors

/-!
# Failures that have a ground

What a section does between its questions is to write: records, lines and a report. Where the library is `Typed`, that is, where its
tensors have sizes and its statistics are numbers, and where all of it can be written, this cannot fail. So a section over such a
library is `Founded`: it fails only with the failure of a question or of the sink.
-/

namespace AccelProbe

variable {α : Type}

/-- Whether the answers of a world are what the questions ask for. -/
structure World.Typed (w : World Query) : Prop where
  /-- Whatever is answered can be written. -/
  writable : w.Writable
  /-- What is copied to the host is a tensor, and its sizes can be written. -/
  copied : ∀ h tensor copy, w.answer h (.toHost tensor) = .ok copy →
    ∃ sizes, copy.shape = .ok sizes ∧ ∀ size ∈ sizes, size.isWritable = true
  /-- The statistics are numbers by name. -/
  measured : ∀ h tensor statistics, w.answer h (.statistics tensor) = .ok statistics →
    ∃ entries, statistics = .dictionary entries ∧ ∀ entry ∈ entries, ∃ x, entry.2 = .float x

/-- Whether a failure that ends a program is one of its events. -/
def Founded {Call : Type} (h : History Call) (r : Except Failure α) : Prop := ∀ e, r = .error e → ∃ event ∈ h, event.FailedWith e

namespace Founded

variable {Call : Type} {h h' : History Call} {r : Except Failure α}

/-- A program that ends with a result has no failure to account for. -/
theorem of_ok (a : α) : Founded h (.ok a : Except Failure α) := nofun

/-- A failure stays founded whatever happens besides. -/
theorem mono (hf : Founded h r) (hs : h ⊆ h') : Founded h' r := by
  intro e he
  obtain ⟨event, hm, hevent⟩ := hf e he
  exact ⟨event, hs hm, hevent⟩

/-- The failure that cuts a course is one of the events. -/
theorem of_cut {course : History Call} {e : Failure} (hc : Cut course h e) : Founded h (.error e : Except Failure α) := by
  rintro e' ⟨⟩
  obtain ⟨before, event, rest, hs, -, rfl⟩ := hc
  refine ⟨event.failing e, by simp, ?_⟩
  cases event with
  | logged record => cases hs
  | _ => rfl

end Founded

namespace Section

open Program

variable {w : World Query} {h : History Query}

/-- A reported failure of a question is founded where the wordings of the library can be written. -/
theorem founded_afterReport {errorRecord : String → LogRecord} {course : History Query} {e : Failure} (hw : w.Writable)
    (hcourse : ∀ event ∈ course, ∃ q v, event = .called q (.ok v)) (hc : Cut course h e) (hy : ∀ event ∈ h, w.Yields event) :
    Founded h (.error (afterReport (fun e => e.message.map errorRecord) e) : Except Failure α) := by
  obtain ⟨event, hm, hfailing⟩ := hc.exists_mem
  obtain ⟨q, v, rfl⟩ := hcourse event hm
  have hyield : w.Yields (.called q (.error e)) := hy _ hfailing
  rw [afterReport_of_message _ (hw.message hyield)]
  exact .of_cut hc

namespace Diagnostic

variable {library accelerator : String} {sizes : List Value} {index : Value}

/-- The ways of the section over a typed library are founded. -/
theorem Way.founded {r : Except Failure DiagnosticReport} (hway : Way library accelerator sizes index h r) (hw : w.Typed)
    (hy : ∀ event ∈ h, w.Yields event) (hsizes : ∀ size ∈ sizes, size.isWritable = true) (hindex : index.isWritable = true) :
    Founded h r := by
  cases hway with
  | unopened version available count hc => exact .of_cut hc
  | unwritable version available count hp hq hv => exact absurd ((hw.writable.of_yields (hy _ hq)).symm.trans hv) nofun
  | skipped version available count hv hn ha => exact .of_ok _
  | unrecorded version available count ha hr =>
    obtain ⟨record, hrecord⟩ := allocationRecord_of_isWritable accelerator hsizes hindex
    cases hrecord.symm.trans hr
  | unallocated version available count fresh tensor text ha hr hc =>
    refine (founded_afterReport hw.writable ?_ hc fun event hm => hy event (by simp [hm])).mono fun event hm => by simp [hm]
    intro event hm
    obtain ⟨q, v, hevent, -⟩ := allocates_allocation event hm
    exact ⟨q, v, hevent⟩
  | unclosed version available count fresh tensor text ha hr hc =>
    exact (Founded.of_cut hc).mono fun event hm => by simp [hm]
  | allocated version available count fresh tensor text hv hn ha hr => exact .of_ok _

end Diagnostic

namespace Compute

variable {accelerator : String} {size index : Value}

/-- The record of the multiplication can be written where the size can. -/
theorem multiplicationRecord_of_isWritable (accelerator : String) (hsize : size.isWritable = true) :
    ∃ record, multiplicationRecord accelerator size = .ok record := by
  rw [multiplicationRecord, Value.toText_eq_ok_iff.mpr ⟨hsize, rfl⟩]
  exact ⟨_, rfl⟩

/-- The line of a statistic can be written where it is a number. -/
theorem exists_statisticLine {entry : String × Value} {x : Double} (h : entry.2 = .float x) :
    ∃ line, ComputeReport.statisticLine entry = .ok line := by
  rw [ComputeReport.statisticLine, h]
  exact ⟨_, rfl⟩

/-- The report can be written where its sizes and its index can, and its statistics are numbers. -/
theorem exists_lines (accelerator : String) {sizes : List Value} {entries : List (String × Value)} (hsize : size.isWritable = true)
    (hindex : index.isWritable = true) (hsizes : ∀ size ∈ sizes, size.isWritable = true)
    (hentries : ∀ entry ∈ entries, ∃ x, entry.2 = .float x) :
    ∃ lines, (reportOn accelerator size index sizes (.dictionary entries)).lines = .ok lines := by
  obtain ⟨statistics, hstatistics⟩ : ∃ statistics, entries.mapM ComputeReport.statisticLine = .ok statistics := by
    refine exists_mapM_eq_ok fun entry hm => ?_
    obtain ⟨x, hx⟩ := hentries entry hm
    exact exists_statisticLine hx
  have hinput : Value.toDimensions [size, size] = .ok (Value.dimensions [size, size]) :=
    Value.toDimensions_of_isWritable (by simp [hsize])
  have hmultiplication : ∃ line, ComputeReport.multiplicationLine [size, size] (.str accelerator) index = .ok line := by
    rw [ComputeReport.multiplicationLine, hinput, Value.toText_str, Value.toText_eq_ok_iff.mpr ⟨hindex, rfl⟩]
    exact ⟨_, rfl⟩
  obtain ⟨line, hline⟩ := hmultiplication
  simp only [ComputeReport.lines, reportOn, Value.items, Value.entries, Bind.bind, Except.bind, hline, ComputeReport.resultLine,
    Value.toDimensions_of_isWritable hsizes, hstatistics, ComputeReport.passedLine, Value.toText_str]
  exact ⟨_, rfl⟩

/-- The ways of the section over a typed library are founded. -/
theorem Way.founded {r : Except Failure (Option ComputeReport)} (hway : Way accelerator size index h r) (hw : w.Typed)
    (hy : ∀ event ∈ h, w.Yields event) (hsize : size.isWritable = true) (hindex : index.isWritable = true) : Founded h r := by
  cases hway with
  | unasked e =>
    rintro _ ⟨⟩
    exact ⟨_, List.mem_cons_self, rfl⟩
  | unskipped available e ha =>
    rintro _ ⟨⟩
    exact ⟨_, .tail _ (.head _), rfl⟩
  | skipped available ha => exact .of_ok _
  | unrecorded available ha hr =>
    obtain ⟨record, hrecord⟩ := multiplicationRecord_of_isWritable accelerator hsize
    cases hrecord.symm.trans hr
  | unmultiplied available fresh matrix product copy statistics ha hr hc =>
    refine (founded_afterReport hw.writable ?_ hc fun event hm => hy event (by simp [hm])).mono fun event hm => by simp [hm]
    intro event hm
    obtain ⟨q, v, hevent, -⟩ := multiplies_multiplication event hm
    exact ⟨q, v, hevent⟩
  | shapeless available fresh matrix product copy statistics ha hr hs =>
    obtain ⟨_, hcopy⟩ : w.Yields (.called (.toHost product) (.ok copy)) := hy _ (by simp [multiplication])
    obtain ⟨sizes, hshape, -⟩ := hw.copied _ product copy hcopy.symm
    cases hshape.symm.trans hs
  | unwritable available fresh matrix product copy statistics ha hr hs hl =>
    obtain ⟨_, hcopy⟩ : w.Yields (.called (.toHost product) (.ok copy)) := hy _ (by simp [multiplication])
    obtain ⟨_, hstatistics⟩ : w.Yields (.called (.statistics copy) (.ok statistics)) := hy _ (by simp [multiplication])
    obtain ⟨sizes, hshape, hsizes⟩ := hw.copied _ product copy hcopy.symm
    obtain ⟨entries, rfl, hentries⟩ := hw.measured _ copy statistics hstatistics.symm
    obtain rfl := Except.ok.inj (hshape.symm.trans hs)
    obtain ⟨lines, hlines⟩ := exists_lines accelerator hsize hindex hsizes hentries
    cases hlines.symm.trans hl
  | unreported available fresh matrix product copy statistics ha hr hs hl hc =>
    exact (Founded.of_cut hc).mono fun event hm => by simp [hm]
  | passed available fresh matrix product copy statistics ha hr hs hl => exact .of_ok _

end Compute

end Section

end AccelProbe
