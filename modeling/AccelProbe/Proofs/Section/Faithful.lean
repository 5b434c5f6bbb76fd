import AccelProbe.Proofs.Program.Exchanges
import AccelProbe.Proofs.Section.Diagnostic

/-!
# What a diagnostic report says

The section writes its lines one by one, from reports that are not whole yet, and asks whether there is an accelerator; the lines
of the whole report are made at once, and there the question is whether there is a printed tensor. The two agree: a section that
returns a report has written its lines, and the fields of the report are the answers of the backend.
-/

namespace AccelProbe

namespace Section.Diagnostic

open Program

variable {library accelerator : String} {sizes : List Value} {index : Value} {h : History Query}

/-- The questions of the opening with their answers. -/
theorem exchanges_opening (library accelerator : String) (version available count : Value) :
    (opening library accelerator version available count).exchanges =
      [(.version, .ok version), (.isAvailable, .ok available), (.deviceCount, .ok count)] := rfl

/-- A section with a shape that has items is the section for those; one with another shape fails at once. -/
theorem run_eq_ok {w : World Query} {library accelerator : String} {shape index : Value} {before after : History Query}
    {report : DiagnosticReport} (hrun : (run (.direct library accelerator) shape index).run w before = (after, .ok report)) :
    ∃ sizes, shape.items = .ok sizes ∧
      (runWith (.direct library accelerator) sizes index).run w before = (after, .ok report) := by
  cases hs : shape.items with
  | ok sizes =>
    refine ⟨sizes, rfl, ?_⟩
    rw [run, hs] at hrun
    exact hrun
  | error fault =>
    rw [run, hs] at hrun
    cases hrun

/-- A section that returns a report has written exactly the lines of that report, whatever the backend answered, as long as it
prints a tensor as a text. An answer that counts as true to the question for an accelerator, and nothing else, gives the two more
lines of an allocated tensor, however that prints; without it no question of the allocation is asked and the report has no tensor.
The fields of the report are the answers. -/
theorem report_faithful (w : World Query) (library accelerator : String) (shape index : Value) (before h : History Query)
    (report : DiagnosticReport)
    (hrun : (run (.direct library accelerator) shape index).run w before = (before ++ h, .ok report))
    (hformat : ∀ past tensor text, w.answer past (.formatTensor tensor) = .ok text → ∃ s, text = .str s) :
    report.lines = .ok h.lines ∧
      ∃ version available count : Value,
        if available.isTruthy then
          ∃ (sizes : List Value) (fresh tensor : Value) (text : String),
            shape.items = .ok sizes ∧
              h.exchanges =
                [(.version, .ok version), (.isAvailable, .ok available), (.deviceCount, .ok count),
                  (.randomTensor (.tuple sizes), .ok fresh), (.toAccelerator fresh index, .ok tensor),
                  (.formatTensor tensor, .ok (.str text))] ∧
              report =
                { library := .str library, accelerator := .str accelerator, version, available, deviceCount := count, tensor,
                  tensorText := .str text } ∧
              h.lines =
                [.str (library ++ " Version: " ++ version.display), .str (accelerator ++ " Available: true"),
                  .str (accelerator ++ " Device Count: " ++ count.display),
                  .str ("Created " ++ accelerator ++ " tensor successfully!"), .str text]
        else
          h.exchanges = [(.version, .ok version), (.isAvailable, .ok available), (.deviceCount, .ok count)] ∧
            report =
              { library := .str library, accelerator := .str accelerator, version, available, deviceCount := count,
                tensor := .null, tensorText := .null } ∧
            h.lines =
              [.str (library ++ " Version: " ++ version.display), .str (accelerator ++ " Available: false"),
                .str (accelerator ++ " Device Count: " ++ count.display)] := by
  obtain ⟨sizes, hs, hrun⟩ := run_eq_ok hrun
  obtain ⟨added, hadded, ht, hy⟩ := run_trace w (runWith (.direct library accelerator) sizes index) before
  rw [hrun] at hadded ht
  obtain rfl : h = added := List.append_cancel_left hadded
  have hway : Way library accelerator sizes index h (.ok report) := trace_runWith ht
  have htext : ∀ tensor text, .called (.formatTensor tensor) (.ok text) ∈ h → ∃ s, text = .str s := by
    intro tensor text hm
    obtain ⟨past, hp⟩ := hy _ hm
    exact hformat past tensor text hp.symm
  refine ⟨hway.report_lines ?_, ?_⟩
  · intro tensor text hm
    obtain ⟨s, rfl⟩ := htext tensor text hm
    rfl
  cases hway with
  | skipped version available count hv hn ha =>
    refine ⟨version, available, count, ?_⟩
    have hline : availabilityText accelerator available = accelerator ++ " Available: false" := by
      rw [availabilityText, flagText, ha, String.append_assoc]
      rfl
    rw [ha, if_neg Bool.false_ne_true, History.exchanges_append, History.lines_append, exchanges_opening, lines_opening, hline]
    exact ⟨rfl, rfl, rfl⟩
  | @allocated version available count fresh tensor text record hv hn ha hr =>
    obtain ⟨s, rfl⟩ := htext tensor text (by simp [allocation])
    refine ⟨version, available, count, ?_⟩
    have hline : availabilityText accelerator available = accelerator ++ " Available: true" := by
      rw [availabilityText, flagText, ha, String.append_assoc]
      rfl
    rw [if_pos ha, History.exchanges_append, History.lines_append, exchanges_opening, lines_opening, hline]
    exact ⟨sizes, fresh, tensor, s, hs, rfl, rfl, rfl⟩

/-- A world that counts its accelerators in answer to the question for one, and whose tensors print as nothing. -/
def terse : World Query where
  answer := fun _ q =>
    match q with
    | .version => .ok (.str "2.4.0")
    | .isAvailable => .ok (.int 2)
    | .deviceCount => .ok (.int 2)
    | .formatTensor _ => .ok (.str "")
    | _ => .ok (.tensor [.int 2, .int 3] (.str "cuda:0") "")
  take := fun _ _ => .ok ()

/-- With that world's answers the section has a report of five lines, the last of them empty. -/
theorem report_faithful_terse :
    (∀ past tensor text, terse.answer past (.formatTensor tensor) = .ok text → ∃ s, text = .str s) ∧
      ∃ h report,
        (run (.direct "Torch" "CUDA") standardShape (.int 1)).run terse [] = (h, .ok report) ∧ report.lines = .ok h.lines ∧
          h.lines =
            [.str "Torch Version: 2.4.0", .str "CUDA Available: true", .str "CUDA Device Count: 2",
              .str "Created CUDA tensor successfully!", .str ""] := by
  have hformat : ∀ past tensor text, terse.answer past (.formatTensor tensor) = .ok text → ∃ s, text = .str s := by
    intro past tensor text ht
    exact ⟨"", (Except.ok.inj ht).symm⟩
  refine ⟨hformat, _, _, rfl, ?_, ?_⟩
  · exact (report_faithful terse "Torch" "CUDA" standardShape (.int 1) [] _ _ rfl hformat).1
  · rfl

end Section.Diagnostic

end AccelProbe
