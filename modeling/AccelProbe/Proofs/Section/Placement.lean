import AccelProbe.Proofs.Section.Careful

/-!
# Where a moved tensor was found

The backend of TensorFlow checks where a moved tensor lies before it hands it on. Over this backend a careful section is `Guarded`: a
line of success stands after the check of a tensor that was found on the device, and a check that failed is the end of the section
but for one record of an error.
-/

namespace AccelProbe

namespace Section

open Program TensorFlow

/-- Whether a tensor was found on the device with this index: it was copied in the scope of the device, and the name of the place
where the copy lies was parsed as that of the device. -/
def Confirmed (index : Value) (h : History TensorFlowCall) : Prop :=
  ∃ before after text entered tensor copy left place found, index.toText = .ok text ∧ copy.heldBy = .ok place ∧
    found.same index = true ∧ h = before ++ (transfer text entered tensor copy left place (.spec (.str "GPU") found) ++ after)

/-- Whether a section over TensorFlow follows the checks of the tensors that it moves to the device with this index. -/
structure Guarded {α : Type} (index : Value) (h : History TensorFlowCall) (r : Except Failure α) : Prop where
  /-- A line of success is written only after a tensor was found on the device. -/
  confirmed : ∀ before after text taken, h = before ++ .wrote (.str text) taken :: after → text ∈ successTexts →
    Confirmed index before
  /-- When the place of a copy is parsed as anything but the device, or not at all, nothing comes after that but records, and there
  was no record of an error before. Unless the parsing failed with something else than an ordinary error, there is one record, and
  that is of an error. -/
  stopped : ∀ before after place answer, h = before ++ .called (.parseDevice place) answer :: after →
    (¬ ∃ found, answer = .ok (.spec (.str "GPU") found) ∧ found.same index = true) →
    ∃ records e, after = records.map .logged ∧ r = .error e ∧
      (∀ earlier ∈ History.records before, earlier.level ≠ Level.error) ∧
      ((∀ e', answer = .error e' → e'.Ordinary) → ∃ report, records = [report] ∧ report.level = Level.error)

/-- A section that gives its result in another form follows the checks as before. -/
theorem Guarded.map {α β : Type} {index : Value} {h : History TensorFlowCall} {r : Except Failure α} (hg : Guarded index h r)
    (g : α → β) : Guarded index h (r.map g) where
  confirmed := hg.confirmed
  stopped before after place answer hh hn := by
    obtain ⟨records, e, hafter, rfl, hbefore, hreport⟩ := hg.stopped before after place answer hh hn
    exact ⟨records, e, hafter, rfl, hbefore, hreport⟩

/-- Whether every ordinary error is reported by a record of an error. -/
def Loud (record : Failure → Except Value.Fault LogRecord) : Prop :=
  ∀ e : Failure, e.Ordinary → ∃ report, reportOf record e = [report] ∧ report.level = Level.error

/-- A report that puts the wording of a failure into a record of an error is loud. -/
theorem loud_of_level {recordOf : String → LogRecord} (hlevel : ∀ text, (recordOf text).level = Level.error) :
    Loud fun e => e.message.map recordOf := by
  rintro e ⟨hi, message, hm⟩
  exact ⟨recordOf message, by rw [reportOf, hi, hm]; rfl, hlevel message⟩

theorem Diagnostic.loud_failureRecord (accelerator : String) : Loud (failureRecord accelerator) :=
  loud_of_level fun _ => rfl

theorem Compute.loud_failureRecord (accelerator : String) : Loud (failureRecord accelerator) :=
  loud_of_level fun _ => rfl

/-- A careful section over TensorFlow is guarded. -/
theorem Careful.guarded {α : Type} {index version : Value} {record : Failure → Except Value.Fault LogRecord} {h : History Query}
    {h' : History TensorFlowCall} {r : Except Failure α} (hc : Careful index record h r) (hl : Loud record)
    (he : Expands (perform version) h h') : Guarded index h' r where
  confirmed before after text taken hh hs := by
    subst hh
    obtain ⟨first, rest, rfl, hfirst, -⟩ := he.split_wrote (quiet_perform version)
    obtain ⟨fresh, tensor, hm⟩ := hc.moved first rest text taken rfl hs
    obtain ⟨lead, part, trail, rfl, hpart⟩ := hfirst.exists_part hm
    obtain ⟨text, entered, left, place, found, hi, hp, hf, rfl⟩ := (trace_toAccelerator hpart).checked.placed tensor rfl
    exact ⟨lead, trail, text, entered, fresh, tensor, left, place, found, hi, hp, hf, rfl⟩
  stopped before after place answer hh hn := by
    subst hh
    obtain ⟨first, q, reply, rest, lead, part, part', trail, rfl, hpart, rfl, rfl, hfirst, hrest⟩ := he.split_called
    -- the place of a tensor is parsed only where a tensor is moved
    obtain ⟨tensor, i, rfl⟩ : ∃ tensor i, q = .toAccelerator tensor i := by
      cases q with
      | toAccelerator tensor i => exact ⟨tensor, i, rfl⟩
      | _ => exact absurd (by simp) (parseDevice_notMem (by nofun) hpart place answer)
    obtain rfl := hc.index_eq tensor i reply (by simp)
    obtain ⟨rfl, e, rfl, hordinary⟩ := (trace_toAccelerator hpart).refused hn
    obtain ⟨rfl, hr, hbefore⟩ := hc.stopped first rest tensor e rfl
    refine ⟨reportOf record e, afterReport record e, hrest.logged, hr, ?_, fun ha => hl e (hordinary ha)⟩
    intro earlier hm
    rw [History.records_append, List.mem_append, hfirst.records (quiet_perform version)] at hm
    rcases hm with hm | hm
    · exact hbefore earlier hm
    · have hquiet := (quiet_perform version _).records hpart
      rw [History.records_append] at hquiet
      rw [(List.append_eq_nil_iff.mp hquiet).1] at hm
      cases hm

/-! ## The sections over TensorFlow -/

section

variable {version index : Value} {h' : History TensorFlowCall}

/-- The diagnostic section follows the checks of its tensor. -/
theorem Diagnostic.guarded_of_trace {shape : Value} {r : Except Failure DiagnosticReport}
    (ht : (run (backend version) shape index).Trace h' r) : Guarded index h' r := by
  rcases trace_ofValue_bind ht with ⟨sizes, -, hrun⟩ | ⟨_, _, rfl, rfl⟩
  · obtain ⟨h, hway, he⟩ := exists_way hrun
    exact hway.careful.guarded (loud_failureRecord _) he
  · exact ⟨by simp, by simp⟩

/-- The environment section moves no tensor. -/
theorem Environment.guarded_of_trace {env : AccelProbe.Environment} {r : Except Failure EnvironmentReport}
    (ht : (run (backend version) env).Trace h' r) : Guarded index h' r := by
  obtain ⟨h, hway, he⟩ := exists_way ht
  exact hway.careful.guarded (Diagnostic.loud_failureRecord "GPU") he

/-- The compute section follows the checks of its matrix. -/
theorem Compute.guarded_of_trace {size : Value} {r : Except Failure (Option ComputeReport)}
    (ht : (run (backend version) size index).Trace h' r) : Guarded index h' r := by
  obtain ⟨h, hway, he⟩ := exists_way ht
  exact hway.careful.guarded (loud_failureRecord _) he

end

end Section

end AccelProbe
