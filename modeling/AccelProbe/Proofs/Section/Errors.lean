import AccelProbe.Proofs.Section.Careful

/-!
# The records of errors

A section that allocates or multiplies reports a failure in a record of an error, and only a failure of the questions that it asks for
that purpose. `Reported` says so in both directions: there is one such record where the section ends with an ordinary failure of one
of these questions, and none otherwise. What is `Calm` has neither, and a section is calm but for the one event that ends it.
-/

namespace AccelProbe

/-- The records of errors in a history, whether they are shown or not. -/
def History.errors {Call : Type} (h : History Call) : List LogRecord := h.records.filter (·.level == Level.error)

namespace History

variable {Call : Type}

theorem errors_append (h h' : History Call) : errors (h ++ h') = errors h ++ errors h' := by
  rw [errors, records_append, List.filter_append]
  rfl

end History

namespace Event

variable {Call : Type}

/-- Whether an event is no record of an error. -/
def Errorless : Event Call → Prop
  | .logged record => record.level ≠ Level.error
  | _ => True

/-- Whether an event is a failure with `e`. -/
def FailedWith (e : Failure) : Event Call → Prop
  | .called _ reply => reply = .error e
  | .wrote _ taken => taken = .error e
  | .logged _ => False

/-- Whether an event is neither a failure nor a record of an error. -/
def Calm : Event Call → Prop
  | .called _ reply => ∃ v, reply = .ok v
  | .wrote _ taken => taken = .ok ()
  | .logged record => record.level ≠ Level.error

/-- What is calm is no record of an error. -/
theorem Calm.errorless {event : Event Call} (hc : event.Calm) : event.Errorless := by
  cases event with
  | logged record => exact hc
  | _ => trivial

/-- What is calm is no failure. -/
theorem Calm.not_failed {event : Event Call} (hc : event.Calm) (e : Failure) : ¬ event.FailedWith e := by
  intro hf
  cases event with
  | called q reply =>
    obtain ⟨v, rfl⟩ := hc
    cases hf
  | wrote line taken =>
    cases hc
    cases hf
  | logged record => exact hf

end Event

/-- A history whose events are no records of errors has none. -/
theorem History.errors_eq_nil {Call : Type} {h : History Call} (hh : ∀ event ∈ h, event.Errorless) : h.errors = [] := by
  refine List.filter_eq_nil_iff.mpr ?_
  intro record hm
  have hlevel : record.level ≠ Level.error := hh _ (History.mem_records_iff.mp hm)
  simpa using hlevel

/-- With its calls worked out, a history has the records of errors that it has. -/
theorem Program.Expands.errors {Call Call' : Type} {f : Call → Program Call' Value} {h : History Call} {h' : History Call'}
    (hf : ∀ c, (f c).Quiet) (he : Expands f h h') : h'.errors = h.errors := by
  rw [History.errors, he.records hf, History.errors]

/-- Whether nothing in a history is a failure or a record of an error. -/
def History.Calm {Call : Type} (h : History Call) : Prop := ∀ event ∈ h, event.Calm

namespace History.Calm

variable {Call : Type} {h h' : History Call}

theorem nil : Calm ([] : History Call) := List.forall_mem_nil _

theorem append (hh : Calm h) (hh' : Calm h') : History.Calm (h ++ h') := List.forall_mem_append.mpr ⟨hh, hh'⟩

theorem cons {event : Event Call} (he : event.Calm) (hh : Calm h) : History.Calm (event :: h) := List.forall_mem_cons.mpr ⟨he, hh⟩

/-- A calm history has no record of an error. -/
theorem errors (hh : Calm h) : h.errors = [] := errors_eq_nil fun event hm => (hh event hm).errorless

/-- Lines that the sink took are calm. -/
theorem ofLines (lines : List Value) : Calm (History.ofLines lines : History Call) := by
  intro event hm
  obtain ⟨line, -, rfl⟩ := List.mem_map.mp hm
  rfl

/-- A calm course that is cut has no record of an error, and the failure that cuts it is its only one. -/
theorem cut {course : History Call} {e : Failure} (hcourse : Calm course) (hc : Cut course h e) :
    h.errors = [] ∧ ∀ event ∈ h, ∀ e', event.FailedWith e' → e = e' := by
  obtain ⟨before, event, rest, hs, rfl, rfl⟩ := hc
  have hbefore : Calm before := fun event hm => hcourse event (by simp [hm])
  constructor
  · rw [errors_append, hbefore.errors]
    cases event with
    | logged record => cases hs
    | _ => rfl
  · intro event' hm e' hf
    rcases List.mem_append.mp hm with hm | hm
    · exact absurd hf ((hbefore event' hm).not_failed e')
    · obtain rfl := List.mem_singleton.mp hm
      cases event with
      | logged record => cases hs
      | _ => exact Except.error.inj hf

end History.Calm

namespace Section

open Program

/-- Whether a section ended with an ordinary failure of one of these questions. -/
def Blamed {α : Type} (Within : Query → Prop) (h : History Query) (r : Except Failure α) : Prop :=
  ∃ q e, Within q ∧ .called q (.error e) ∈ h ∧ e.isInterrupt = false ∧ r = .error e

/-- Whether a section reports the failures of these questions, and no others, in a record of this wording. -/
structure Reported {α : Type} (Within : Query → Prop) (errorRecord : String → LogRecord) (h : History Query)
    (r : Except Failure α) : Prop where
  /-- There is one record of an error where the section ends with an ordinary failure of such a question. -/
  once : Blamed Within h r → h.errors.length = 1
  /-- There is none otherwise. -/
  never : ¬ Blamed Within h r → h.errors = []
  /-- The record comes right after the failure and tells its wording; nothing comes after it, and the failure leaves the section as it
  is. -/
  last : ∀ report ∈ h.errors, ∃ before q e text, h = before ++ [.called q (.error e), .logged report] ∧ Within q ∧
    e.message = .ok text ∧ report = errorRecord text ∧ r = .error e
  /-- The failure of another question or of a line leaves the section as it is, without a record. -/
  passed : ∀ event e, event ∈ h → event.FailedWith e → (∀ q reply, event = .called q reply → ¬ Within q) →
    r = .error e ∧ h.errors = []

/-- What comes of a failure that is reported: nothing where it is an interrupt, a record where it has a wording, and otherwise another
failure. -/
theorem report_cases (errorRecord : String → LogRecord) (e : Failure) :
    let record := fun e : Failure => e.message.map errorRecord
    (e.isInterrupt = true ∧ reportOf record e = [] ∧ afterReport record e = e) ∨
      (∃ text, e.isInterrupt = false ∧ e.message = .ok text ∧ reportOf record e = [errorRecord text] ∧ afterReport record e = e) ∨
        ∃ fault, e.message = .error fault ∧ reportOf record e = [] ∧ afterReport record e = .value fault := by
  intro record
  unfold reportOf afterReport
  cases e.isInterrupt with
  | true => exact Or.inl ⟨rfl, rfl, rfl⟩
  | false =>
    dsimp only [record]
    cases e.message with
    | ok text => exact Or.inr (Or.inl ⟨text, rfl, rfl, rfl, rfl⟩)
    | error fault => exact Or.inr (Or.inr ⟨fault, rfl, rfl, rfl⟩)

namespace Reported

variable {α : Type} {Within : Query → Prop} {errorRecord : String → LogRecord} {h before lead course : History Query}
  {r : Except Failure α} {q : Query} {e : Failure}

/-- A section that has no failure to report, and no record of an error, reports what it has to. -/
theorem of_quiet (herrors : h.errors = []) (hblamed : ¬ Blamed Within h r)
    (hpassed : ∀ event e, event ∈ h → event.FailedWith e → (∀ q reply, event = .called q reply → ¬ Within q) → r = .error e) :
    Reported Within errorRecord h r where
  once hb := absurd hb hblamed
  never _ := herrors
  last report hm := by
    rw [herrors] at hm
    cases hm
  passed event e hm hf hn := ⟨hpassed event e hm hf hn, herrors⟩

/-- A calm section has nothing to report. -/
theorem of_calm (hh : History.Calm h) : Reported Within errorRecord h r := by
  refine of_quiet hh.errors ?_ ?_
  · rintro ⟨q, e, -, hm, -, -⟩
    exact (hh _ hm).not_failed e rfl
  · intro event e hm hf
    exact absurd hf ((hh event hm).not_failed e)

/-- A section that is cut at something else than the questions whose failures it reports has nothing to report. -/
theorem of_cut (hlead : History.Calm lead) (hcourse : History.Calm course) (hother : ∀ q reply, .called q reply ∈ course → ¬ Within q)
    (hc : Cut course h e) : Reported Within errorRecord (lead ++ h) (.error e : Except Failure α) := by
  obtain ⟨herrors, honly⟩ := hcourse.cut hc
  refine of_quiet ?errors ?blamed ?passed
  case errors => rw [History.errors_append, hlead.errors, herrors, List.append_nil]
  case blamed =>
    rintro ⟨q, e', hq, hm, -, -⟩
    rcases List.mem_append.mp hm with hm | hm
    · exact (hlead _ hm).not_failed e' rfl
    · obtain ⟨planned, hplanned⟩ := hc.exists_called hm
      exact hother q planned hplanned hq
  case passed =>
    intro event e' hm hf _
    rcases List.mem_append.mp hm with hm | hm
    · exact absurd hf ((hlead event hm).not_failed e')
    · rw [honly event hm e' hf]

/-- A section whose only failure is one that it reports, in the record after it, reports what it has to. -/
theorem of_recorded (hlevel : ∀ text, (errorRecord text).level = Level.error) (hbefore : History.Calm before) (hq : Within q)
    (hi : e.isInterrupt = false) {text : String} (hm : e.message = .ok text) :
    Reported Within errorRecord (before ++ [.called q (.error e), .logged (errorRecord text)]) (.error e : Except Failure α) := by
  have hreport : History.errors (before ++ [.called q (.error e), .logged (errorRecord text)]) = [errorRecord text] := by
    rw [History.errors_append, hbefore.errors]
    simp [History.errors, History.records, hlevel]
  refine ⟨fun _ => by rw [hreport]; rfl, ?never, ?last, ?passed⟩
  case never =>
    intro hn
    exact absurd ⟨q, e, hq, by simp, hi, rfl⟩ hn
  case last =>
    intro report hr
    rw [hreport, List.mem_singleton] at hr
    subst hr
    exact ⟨before, q, e, text, rfl, hq, hm, rfl, rfl⟩
  case passed =>
    intro event e' hevent hf hn
    simp only [List.mem_append, List.mem_cons, List.not_mem_nil, or_false] at hevent
    rcases hevent with hevent | rfl | rfl
    · exact absurd hf ((hbefore event hevent).not_failed e')
    · exact absurd hq (hn q _ rfl)
    · exact hf.elim

/-- A section that fails with something else than an ordinary failure that it has to report, and leaves no record, reports what it has
to. -/
theorem of_unrecorded (hbefore : History.Calm before) (hq : Within q) {x : Failure} (hx : ¬ (e.isInterrupt = false ∧ x = e)) :
    Reported Within errorRecord (before ++ [.called q (.error e)]) (.error x : Except Failure α) := by
  have honly : ∀ event e', event ∈ before ++ [.called q (.error e)] → event.FailedWith e' → event = .called q (.error e) ∧ e = e' := by
    intro event e' hm hf
    rcases List.mem_append.mp hm with hm | hm
    · exact absurd hf ((hbefore event hm).not_failed e')
    · obtain rfl := List.mem_singleton.mp hm
      exact ⟨rfl, Except.error.inj hf⟩
  refine of_quiet ?errors ?blamed ?passed
  case errors =>
    rw [History.errors_append, hbefore.errors]
    rfl
  case blamed =>
    rintro ⟨q', e', -, hm, hi, hr⟩
    obtain ⟨-, rfl⟩ := honly _ e' hm rfl
    exact hx ⟨hi, Except.error.inj hr⟩
  case passed =>
    intro event e' hm hf hn
    exact absurd hq (hn q _ (honly event e' hm hf).1)

/-- A section whose questions for one purpose are cut by a failure, which it reports, reports what it has to. -/
theorem of_failed (hlevel : ∀ text, (errorRecord text).level = Level.error) (hlead : History.Calm lead)
    (hcourse : ∀ event ∈ course, ∃ q v, event = .called q (.ok v) ∧ Within q) (hc : Cut course h e) :
    Reported Within errorRecord (lead ++ (h ++ (reportOf (fun e => e.message.map errorRecord) e).map .logged))
      (.error (afterReport (fun e => e.message.map errorRecord) e) : Except Failure α) := by
  obtain ⟨first, event, rest, -, rfl, rfl⟩ := hc
  obtain ⟨q, v, rfl, hq⟩ := hcourse event (by simp)
  change Reported Within errorRecord (lead ++ ((first ++ [.called q (.error e)]) ++ _)) _
  have hbefore : History.Calm (lead ++ first) := by
    refine hlead.append ?_
    intro event hm
    obtain ⟨q', v', rfl, -⟩ := hcourse event (by simp [hm])
    exact ⟨v', rfl⟩
  rcases report_cases errorRecord e with ⟨hi, hr, ha⟩ | ⟨text, hi, hm, hr, ha⟩ | ⟨fault, hm, hr, ha⟩
  · rw [hr, ha, List.map_nil, List.append_nil, ← List.append_assoc]
    exact of_unrecorded hbefore hq fun hx => absurd (hi.symm.trans hx.1) nofun
  · rw [hr, ha, List.append_assoc, ← List.append_assoc]
    exact of_recorded hlevel hbefore hq hi hm
  · rw [hr, ha, List.map_nil, List.append_nil, ← List.append_assoc]
    refine of_unrecorded hbefore hq ?_
    rintro ⟨-, rfl⟩
    cases hm

end Reported

/-! ## The diagnostic section -/

namespace Diagnostic

variable {library accelerator : String} {sizes : List Value} {index version available count fresh tensor text : Value}
  {record : LogRecord} {h : History Query}

/-- Whether a question is one of the allocation. -/
def Allocates : Query → Prop
  | .randomTensor _ | .toAccelerator .. | .formatTensor _ => True
  | _ => False

/-- The record of an allocation that failed with this wording. -/
def errorRecord (accelerator text : String) : LogRecord :=
  ⟨loggerName, Level.error, accelerator ++ " tensor allocation failed: " ++ text⟩

/-- The opening is calm. -/
theorem calm_opening : History.Calm (opening library accelerator version available count) := by
  have hstart : (Event.logged (startRecord library) : Event Query).Calm := (by decide : Level.debug ≠ Level.error)
  have hquestion (q : Query) (answer : Value) (line : String) : History.Calm (question q answer line) :=
    .cons ⟨answer, rfl⟩ (.cons rfl .nil)
  exact .cons hstart ((hquestion _ _ _).append ((hquestion _ _ _).append (hquestion _ _ _)))

/-- The opening asks nothing of the allocation. -/
theorem not_allocates_opening : ∀ q reply, .called q reply ∈ opening library accelerator version available count →
    ¬ Allocates q := by
  intro q reply hm
  simp only [opening, question, List.mem_cons, List.mem_append, reduceCtorEq, Event.called.injEq, List.not_mem_nil, or_false,
    false_or] at hm
  rcases hm with ⟨rfl, -⟩ | ⟨rfl, -⟩ | ⟨rfl, -⟩ <;> exact id

/-- What leads to the allocation is calm. -/
theorem calm_lead (hr : allocationRecord accelerator sizes index = .ok record) :
    History.Calm (opening library accelerator version available count ++ [.logged record]) := by
  obtain ⟨shape, -, hr⟩ := exists_of_bind_eq_ok hr
  obtain ⟨text, -, hr⟩ := exists_of_bind_eq_ok hr
  cases hr
  exact calm_opening.append (.cons (by decide : Level.info ≠ Level.error) .nil)

/-- The allocation asks what it has to, and all of it is answered. -/
theorem allocates_allocation : ∀ event ∈ allocation sizes index fresh tensor text,
    ∃ q v, event = .called q (.ok v) ∧ Allocates q := by
  simp [allocation, Allocates]

/-- The allocation is calm. -/
theorem calm_allocation : History.Calm (allocation sizes index fresh tensor text) := by
  intro event hm
  obtain ⟨q, v, rfl, -⟩ := allocates_allocation event hm
  exact ⟨v, rfl⟩

/-- The closing is calm. -/
theorem calm_closing : History.Calm (closing accelerator text) := .cons rfl (.cons rfl .nil)

/-- The ways of the section report the failures of the allocation. -/
theorem Way.reported {r : Except Failure DiagnosticReport} (hway : Way library accelerator sizes index h r) :
    Reported Allocates (errorRecord accelerator) h r := by
  cases hway with
  | unopened version available count hc => exact .of_cut .nil calm_opening not_allocates_opening hc
  | unwritable version available count hp hq hv => exact .of_calm fun event hm => calm_opening event (hp.subset hm)
  | skipped version available count hv hn ha =>
    exact .of_calm (calm_opening.append (.cons (by decide : Level.info ≠ Level.error) .nil))
  | unrecorded version available count ha hr => exact .of_calm calm_opening
  | unallocated version available count fresh tensor text ha hr hc =>
    rw [List.append_cons]
    exact .of_failed (fun _ => rfl) (calm_lead hr) allocates_allocation hc
  | unclosed version available count fresh tensor text ha hr hc =>
    rw [List.append_cons, ← List.append_assoc]
    exact .of_cut ((calm_lead hr).append calm_allocation) calm_closing (by simp [closing]) hc
  | allocated version available count fresh tensor text hv hn ha hr =>
    rw [List.append_cons]
    exact .of_calm ((calm_lead hr).append (calm_allocation.append calm_closing))

end Diagnostic

/-! ## The compute section -/

namespace Compute

variable {accelerator : String} {size index available fresh matrix product copy statistics : Value} {record : LogRecord}
  {h : History Query}

/-- Whether a question is one of the multiplication. -/
def Multiplies : Query → Prop
  | .randomTensor _ | .toAccelerator .. | .matmulTransposed _ | .toHost _ | .statistics _ => True
  | _ => False

/-- The record of a multiplication that failed with this wording. -/
def errorRecord (accelerator text : String) : LogRecord :=
  ⟨loggerName, Level.error, accelerator ++ " compute check failed: " ++ text⟩

/-- The course of a section that is skipped. -/
def skipping (accelerator : String) (available : Value) : History Query :=
  [.called .isAvailable (.ok available), .wrote (.str (skippedLine accelerator)) (.ok ())]

/-- A section that is skipped is calm. -/
theorem calm_skipping : History.Calm (skipping accelerator available) := .cons ⟨available, rfl⟩ (.cons rfl .nil)

/-- A section that is skipped asks nothing of the multiplication. -/
theorem not_multiplies_skipping : ∀ q reply, .called q reply ∈ skipping accelerator available → ¬ Multiplies q := by
  simp [skipping, Multiplies]

/-- What leads to the multiplication is calm. -/
theorem calm_lead (hr : multiplicationRecord accelerator size = .ok record) :
    History.Calm ([.called .isAvailable (.ok available), .logged record] : History Query) := by
  obtain ⟨text, -, rfl⟩ := exists_of_map_eq_ok hr
  exact .cons ⟨available, rfl⟩ (.cons (by decide : Level.info ≠ Level.error) .nil)

/-- The multiplication asks what it has to, and all of it is answered. -/
theorem multiplies_multiplication : ∀ event ∈ multiplication size index fresh matrix product copy statistics,
    ∃ q v, event = .called q (.ok v) ∧ Multiplies q := by
  simp [multiplication, Multiplies]

/-- The multiplication is calm. -/
theorem calm_multiplication : History.Calm (multiplication size index fresh matrix product copy statistics) := by
  intro event hm
  obtain ⟨q, v, rfl, -⟩ := multiplies_multiplication event hm
  exact ⟨v, rfl⟩

/-- The ways of the section report the failures of the multiplication. -/
theorem Way.reported {r : Except Failure (Option ComputeReport)} (hway : Way accelerator size index h r) :
    Reported Multiplies (errorRecord accelerator) h r := by
  cases hway with
  | unasked e =>
    have hc : Cut (skipping accelerator .null) [.called .isAvailable (.error e)] e := .call ..
    exact .of_cut .nil calm_skipping not_multiplies_skipping hc
  | unskipped available e ha => exact .of_cut .nil calm_skipping not_multiplies_skipping ((Cut.write ..).next _)
  | skipped available ha => exact .of_calm calm_skipping
  | unrecorded available ha hr => exact .of_calm (.cons ⟨available, rfl⟩ .nil)
  | unmultiplied available fresh matrix product copy statistics ha hr hc =>
    exact .of_failed (fun _ => rfl) (calm_lead hr) multiplies_multiplication hc
  | shapeless available fresh matrix product copy statistics ha hr hs =>
    exact .of_calm ((calm_lead hr).append calm_multiplication)
  | unwritable available fresh matrix product copy statistics ha hr hs hl =>
    exact .of_calm ((calm_lead hr).append calm_multiplication)
  | unreported available fresh matrix product copy statistics ha hr hs hl hc =>
    exact .of_cut ((calm_lead hr).append calm_multiplication) (.ofLines _) (by simp [History.ofLines]) hc
  | passed available fresh matrix product copy statistics ha hr hs hl =>
    exact .of_calm ((calm_lead hr).append (calm_multiplication.append (.ofLines _)))

end Compute

end Section

end AccelProbe
