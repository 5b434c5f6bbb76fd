import AccelProbe.Proofs.Program.Trace

/-!
# Courses of events

The course of a program without branches is known beforehand, up to the answers: so many calls and lines, one after the other. A
trace of it is the whole course, or the part of it before an event that failed, followed by that event. The second is what `Cut`
says.
-/

namespace AccelProbe

variable {Call : Type}

/-- The event with a failure in place of what came of it. A record has nothing that could fail. -/
def Event.failing (e : Failure) : Event Call → Event Call
  | .called c _ => .called c (.error e)
  | .wrote line _ => .wrote line (.error e)
  | .logged record => .logged record

/-- Whether an event is a call or a line, and not a record. -/
def Event.isStep : Event Call → Bool
  | .logged _ => false
  | _ => true

/-- The calls and the lines of a history, without the records. -/
def History.steps (h : History Call) : History Call := List.filter Event.isStep h

@[simp] theorem History.steps_append (h h' : History Call) : History.steps (h ++ h') = h.steps ++ h'.steps :=
  List.filter_append ..

/-- Records are no steps. -/
theorem History.steps_map_logged (records : List LogRecord) : History.steps (records.map .logged : History Call) = [] := by
  simp [History.steps, Event.isStep]

/-- The records of a history are those of its events. -/
theorem History.mem_records_iff {record : LogRecord} {h : History Call} : record ∈ h.records ↔ .logged record ∈ h := by
  unfold History.records
  rw [List.mem_filterMap]
  constructor
  · rintro ⟨event, hm, hr⟩
    cases event with
    | logged r =>
      cases hr
      exact hm
    | _ => cases hr
  · exact fun hm => ⟨_, hm, rfl⟩

/-- The calls of a history are those of its events. -/
theorem History.mem_calls_iff {c : Call} {h : History Call} : c ∈ h.calls ↔ ∃ reply, .called c reply ∈ h := by
  unfold History.calls
  rw [List.mem_filterMap]
  constructor
  · rintro ⟨event, hm, hc⟩
    cases event with
    | called c' reply =>
      cases hc
      exact ⟨reply, hm⟩
    | _ => cases hc
  · rintro ⟨reply, hm⟩
    exact ⟨_, hm, rfl⟩

/-- Records are no lines. -/
theorem History.lines_map_logged (records : List LogRecord) : History.lines (records.map .logged : History Call) = [] := by
  simp [History.lines]

/-- The lines with the sink taking each of them. -/
def History.ofLines (lines : List Value) : History Call := lines.map fun line => .wrote line (.ok ())

@[simp] theorem History.lines_ofLines (lines : List Value) : History.lines (.ofLines lines : History Call) = lines := by
  induction lines with
  | nil => rfl
  | cons line lines ih => exact congrArg (line :: ·) ih

/-- Whether the sink took every line of a history. -/
def History.Printed (h : History Call) : Prop := ∀ line taken, .wrote line taken ∈ h → taken = .ok ()

/-- An event of two histories one after the other belongs to the second or to the first. -/
theorem History.split_append {first rest before after : History Call} {event : Event Call}
    (h : first ++ rest = before ++ event :: after) :
    (∃ more, before = first ++ more ∧ rest = more ++ event :: after) ∨
      ∃ more, first = before ++ event :: more ∧ after = more ++ rest := by
  rcases List.append_eq_append_iff.mp h with ⟨more, hb, hr⟩ | ⟨more, hf, ha⟩
  · exact Or.inl ⟨more, hb, hr⟩
  · cases more with
    | nil => exact Or.inl ⟨[], by simpa using hf.symm, ha.symm⟩
    | cons x more =>
      obtain ⟨rfl, rfl⟩ := List.cons.inj ha
      exact Or.inr ⟨more, hf, rfl⟩

/-- An event that is not in the first of two histories belongs to the second. -/
theorem History.split_of_notMem {first rest before after : History Call} {event : Event Call}
    (h : first ++ rest = before ++ event :: after) (hn : event ∉ first) :
    ∃ more, before = first ++ more ∧ rest = more ++ event :: after := by
  rcases History.split_append h with hmore | ⟨more, rfl, -⟩
  · exact hmore
  · exact absurd (by simp) hn

/-- An event of a history with one event is that event. -/
theorem History.split_singleton {before after : History Call} {event event' : Event Call}
    (h : [event] = before ++ event' :: after) : before = [] ∧ event = event' ∧ after = [] := by
  rcases List.singleton_eq_append_iff.mp h with ⟨rfl, hx⟩ | ⟨-, hx⟩
  · obtain ⟨rfl, rfl⟩ := List.cons.inj hx
    exact ⟨rfl, rfl, rfl⟩
  · cases hx

/-- Whether a history is a course up to a call or a line of it that failed with `e`. -/
def Cut (course h : History Call) (e : Failure) : Prop :=
  ∃ before event rest, event.isStep = true ∧ course = before ++ event :: rest ∧ h = before ++ [event.failing e]

/-- Whether everything that a world answers can be written: a value, or the wording of a failure. -/
def World.Writable (w : World Call) : Prop :=
  ∀ h c, match w.answer h c with
    | .ok v => v.isWritable = true
    | .error e => ∃ text, e.message = .ok text

/-- An answer of a world whose answers can be written can be written. -/
theorem World.Writable.of_yields {w : World Call} (hw : w.Writable) {c : Call} {v : Value} (hy : w.Yields (.called c (.ok v))) :
    v.isWritable = true := by
  obtain ⟨h, hv⟩ := hy
  have := hw h c
  rwa [← hv] at this

/-- A failure of a call in a world whose answers can be written has a wording. -/
theorem World.Writable.message {w : World Call} (hw : w.Writable) {c : Call} {e : Failure}
    (hy : w.Yields (.called c (.error e))) : ∃ text, e.message = .ok text := by
  obtain ⟨h, he⟩ := hy
  have := hw h c
  rwa [← he] at this

namespace Cut

variable {course h : History Call} {e : Failure}

/-- The first call of a course fails. -/
theorem call (c : Call) (reply : Reply) (course : History Call) (e : Failure) :
    Cut (.called c reply :: course) [.called c (.error e)] e :=
  ⟨[], .called c reply, course, rfl, rfl, rfl⟩

/-- The first line of a course is refused. -/
theorem write (line : Value) (taken : Taken) (course : History Call) (e : Failure) :
    Cut (.wrote line taken :: course) [.wrote line (.error e)] e :=
  ⟨[], .wrote line taken, course, rfl, rfl, rfl⟩

/-- Events that happen before a course is cut. -/
theorem append_left (before : History Call) (hc : Cut course h e) : Cut (before ++ course) (before ++ h) e := by
  obtain ⟨first, event, rest, hs, rfl, rfl⟩ := hc
  exact ⟨before ++ first, event, rest, hs, (List.append_assoc ..).symm, (List.append_assoc ..).symm⟩

/-- The next event of a course happens before it is cut. -/
theorem next (event : Event Call) (hc : Cut course h e) : Cut (event :: course) (event :: h) e :=
  hc.append_left [event]

/-- A course that is cut is cut there whatever would have come after it. -/
theorem append_right (after : History Call) (hc : Cut course h e) : Cut (course ++ after) h e := by
  obtain ⟨before, event, rest, hs, rfl, rfl⟩ := hc
  exact ⟨before, event, rest ++ after, hs, by simp, rfl⟩

/-- The failure that cuts a course is that of an event of it. -/
theorem exists_mem (hc : Cut course h e) : ∃ event ∈ course, event.failing e ∈ h := by
  obtain ⟨before, event, rest, -, rfl, rfl⟩ := hc
  exact ⟨event, by simp, by simp⟩

/-- The lines that were taken before a course was cut are lines of the course. -/
theorem lines_prefix (hc : Cut course h e) : h.lines <+: course.lines := by
  obtain ⟨before, event, rest, -, rfl, rfl⟩ := hc
  have hf : History.lines [event.failing e] = [] := by cases event <;> rfl
  rw [History.lines_append, History.lines_append, hf, List.append_nil]
  exact List.prefix_append ..

/-- Lines are not cut where the sink took all of them. -/
theorem not_printed {lines : List Value} (hc : Cut (.ofLines lines) h e) : ¬ h.Printed := by
  intro hp
  obtain ⟨event, hmem, hfail⟩ := hc.exists_mem
  obtain ⟨line, -, rfl⟩ := List.mem_map.mp hmem
  exact absurd (hp line (.error e) hfail) nofun

/-- What happened before a course was cut is of the course, and so is what was cut, but for its failure. -/
theorem mem (hc : Cut course h e) {event : Event Call} (hm : event ∈ h) :
    event ∈ course ∨ ∃ planned ∈ course, event = planned.failing e := by
  obtain ⟨before, cut, rest, -, rfl, rfl⟩ := hc
  rcases List.mem_append.mp hm with hm | hm
  · exact Or.inl (List.mem_append_left _ hm)
  · exact Or.inr ⟨cut, by simp, List.mem_singleton.mp hm⟩

/-- The calls before a course was cut are calls of the course, and so is the one that was cut. -/
theorem exists_called (hc : Cut course h e) {c : Call} {reply : Reply} (hm : .called c reply ∈ h) :
    ∃ planned, .called c planned ∈ course := by
  rcases hc.mem hm with hm | ⟨event, hplanned, hf⟩
  · exact ⟨reply, hm⟩
  · cases event with
    | called c' planned =>
      cases hf
      exact ⟨planned, hplanned⟩
    | _ => cases hf

/-- The lines before a course was cut are lines of the course, and so is the one that was cut. -/
theorem exists_wrote (hc : Cut course h e) {line : Value} {taken : Taken} (hm : .wrote line taken ∈ h) :
    ∃ planned, .wrote line planned ∈ course := by
  rcases hc.mem hm with hm | ⟨event, hplanned, hf⟩
  · exact ⟨taken, hm⟩
  · cases event with
    | wrote line' planned =>
      cases hf
      exact ⟨planned, hplanned⟩
    | _ => cases hf

/-- Where no call of a course fails, a call that failed is the one at which the course was cut, and nothing followed. -/
theorem split_failed (hc : Cut course h e) (hok : ∀ c e, .called c (.error e) ∉ course) {before after : History Call} {c : Call}
    {e' : Failure} (hh : h = before ++ .called c (.error e') :: after) : e' = e ∧ after = [] ∧ before <+: course := by
  obtain ⟨first, cut, rest, -, rfl, rfl⟩ := hc
  have hn : .called c (.error e') ∉ first := fun hm => hok c e' (List.mem_append_left _ hm)
  obtain ⟨more, rfl, hmore⟩ := History.split_of_notMem hh hn
  obtain ⟨rfl, hcut, rfl⟩ := History.split_singleton hmore
  cases cut with
  | called c' reply =>
    cases hcut
    exact ⟨rfl, rfl, by simp⟩
  | _ => cases hcut

/-- A call that failed in a history with a cut course and records after it is the one at which the course was cut: what came before
is all that led to the course and a part of the course, and only the records came after. -/
theorem stopped (hc : Cut course h e) (hok : ∀ c e, .called c (.error e) ∉ course) {lead before after : History Call}
    {records : List LogRecord} {c : Call} {e' : Failure} (hlead : .called c (.error e') ∉ lead)
    (hh : lead ++ (h ++ records.map .logged) = before ++ .called c (.error e') :: after) :
    e' = e ∧ after = records.map .logged ∧ ∃ started, started <+: course ∧ before = lead ++ started := by
  obtain ⟨started, rfl, hrest⟩ := History.split_of_notMem hh hlead
  rcases History.split_append hrest with ⟨more, -, hrecords⟩ | ⟨more, hcut, rfl⟩
  · have hm : .called c (.error e') ∈ (records.map .logged : History Call) := by simp [hrecords]
    simp at hm
  · obtain ⟨rfl, rfl, hstarted⟩ := hc.split_failed hok hcut
    exact ⟨rfl, rfl, started, hstarted, rfl⟩

/-- Without their records, a history and a course are cut as they are with them. -/
theorem steps (hc : Cut course h e) : Cut course.steps h.steps e := by
  obtain ⟨before, event, rest, hs, rfl, rfl⟩ := hc
  refine ⟨History.steps before, event, History.steps rest, hs, ?_, ?_⟩
  · simp [History.steps, hs]
  · have hf : (event.failing e).isStep = true := by
      cases event
      · rfl
      · rfl
      · cases hs
    simp [History.steps, hf]

end Cut

namespace Program

/-- Lines are written one after the other until one is refused. -/
theorem trace_printAll {lines : List Value} {h : History Call} {r : Except Failure Unit}
    (ht : (printAll lines).Trace h r) :
    (h = .ofLines lines ∧ r = .ok ()) ∨ ∃ e, Cut (.ofLines lines) h e ∧ r = .error e := by
  induction lines generalizing h with
  | nil => exact Or.inl (trace_done_iff.mp ht)
  | cons line lines ih =>
    rcases trace_print_bind ht with ⟨rest, rfl, hrest⟩ | ⟨e, rfl, rfl⟩
    · rcases ih hrest with ⟨rfl, rfl⟩ | ⟨e, hc, rfl⟩
      · exact Or.inl ⟨rfl, rfl⟩
      · exact Or.inr ⟨e, hc.next _, rfl⟩
    · exact Or.inr ⟨e, .write line (.ok ()) _ e, rfl⟩

/-- A trace that begins with several lines: all of them are taken and the rest goes on, or one is refused and nothing follows. -/
theorem trace_printAll_bind {α : Type} {lines : List Value} {f : Unit → Program Call α} {h : History Call}
    {r : Except Failure α} (ht : ((printAll lines).bind f).Trace h r) :
    (∃ rest, h = History.ofLines lines ++ rest ∧ (f ()).Trace rest r) ∨ ∃ e, Cut (.ofLines lines) h e ∧ r = .error e := by
  rcases trace_bind ht with ⟨_, first, rest, rfl, hfirst, hrest⟩ | ⟨e, he, rfl⟩
  · rcases trace_printAll hfirst with ⟨rfl, -⟩ | ⟨_, _, hx⟩
    · exact Or.inl ⟨rest, rfl, hrest⟩
    · cases hx
  · rcases trace_printAll he with ⟨_, hx⟩ | ⟨_, hc, hx⟩
    · cases hx
    · cases hx
      exact Or.inr ⟨e, hc, rfl⟩

end Program

end AccelProbe
