import AccelProbe.Program

/-!
# The ways through a program

A run is one way through a program: the world picks the branch at every call and at every line. `Trace p h r` says that the
program `p` can go through the events `h` and end with `r`, whatever world that takes, so a statement about all traces is one
about all worlds. `run_trace` leads from a run to its trace; the other statements take a trace apart along the program.
-/

namespace AccelProbe

/-- Whether an event is one of a world: a call or a line has met with what the world has for it after some history. -/
def World.Yields {Call : Type} (w : World Call) : Event Call → Prop
  | .called c reply => ∃ h, reply = w.answer h c
  | .wrote line taken => ∃ h, taken = w.take h line
  | .logged _ => True

namespace Program

variable {Call α β : Type}

/-- One step of a program: an event, and the program that is left after it. -/
inductive Step : Program Call α → Event Call → Program Call α → Prop where
  /-- A call, with any answer. -/
  | call (c : Call) (next : Reply → Program Call α) (reply : Reply) : Step (.call c next) (.called c reply) (next reply)
  /-- A line, taken or refused. -/
  | write (line : Value) (next : Taken → Program Call α) (taken : Taken) :
      Step (.write line next) (.wrote line taken) (next taken)
  /-- A record. -/
  | log (record : LogRecord) (next : Program Call α) : Step (.log record next) (.logged record) next

/-- Whether a program can go through these events and end so. -/
inductive Trace : Program Call α → History Call → Except Failure α → Prop where
  /-- The program has a result. -/
  | done (a : α) : Trace (.done a) [] (.ok a)
  /-- The program fails. -/
  | fail (e : Failure) : Trace (.fail e) [] (.error e)
  /-- The program takes a step and goes on. -/
  | step {p q : Program Call α} {event : Event Call} {h : History Call} {r : Except Failure α} :
      Step p event q → Trace q h r → Trace p (event :: h) r

/-- A run adds a trace of the program to the history, and the events of the trace are events of the world. -/
theorem run_trace (w : World Call) (p : Program Call α) (h : History Call) :
    ∃ added, (p.run w h).1 = h ++ added ∧ p.Trace added (p.run w h).2 ∧ ∀ event ∈ added, w.Yields event := by
  induction p generalizing h with
  | done a => exact ⟨[], (List.append_nil h).symm, .done a, nofun⟩
  | fail e => exact ⟨[], (List.append_nil h).symm, .fail e, nofun⟩
  | call c next ih =>
    obtain ⟨added, hadded, ht, hy⟩ := ih (w.answer h c) (h ++ [.called c (w.answer h c)])
    refine ⟨.called c (w.answer h c) :: added, by simp [run, hadded], .step (.call c next _) ht, ?_⟩
    exact List.forall_mem_cons.mpr ⟨⟨h, rfl⟩, hy⟩
  | write line next ih =>
    obtain ⟨added, hadded, ht, hy⟩ := ih (w.take h line) (h ++ [.wrote line (w.take h line)])
    refine ⟨.wrote line (w.take h line) :: added, by simp [run, hadded], .step (.write line next _) ht, ?_⟩
    exact List.forall_mem_cons.mpr ⟨⟨h, rfl⟩, hy⟩
  | log r next ih =>
    obtain ⟨added, hadded, ht, hy⟩ := ih (h ++ [.logged r])
    exact ⟨.logged r :: added, by simp [run, hadded], .step (.log r next) ht, List.forall_mem_cons.mpr ⟨trivial, hy⟩⟩

/-! ## The pieces of a program -/

@[simp] theorem bind_eq (p : Program Call α) (f : α → Program Call β) : (p >>= f) = p.bind f := rfl

@[simp] theorem pure_eq (a : α) : (pure a : Program Call α) = done a := rfl

@[simp] theorem trace_done_iff {a : α} {h : History Call} {r : Except Failure α} :
    (done a).Trace h r ↔ h = [] ∧ r = .ok a := by
  constructor
  · intro ht
    cases ht with
    | done => exact ⟨rfl, rfl⟩
    | step hs _ => cases hs
  · rintro ⟨rfl, rfl⟩
    exact .done a

@[simp] theorem trace_fail_iff {e : Failure} {h : History Call} {r : Except Failure α} :
    (fail e).Trace h r ↔ h = [] ∧ r = .error e := by
  constructor
  · intro ht
    cases ht with
    | fail => exact ⟨rfl, rfl⟩
    | step hs _ => cases hs
  · rintro ⟨rfl, rfl⟩
    exact .fail e

/-- A trace of a program that calls begins with the call, and the rest is one of the branch for its answer. -/
theorem trace_call {c : Call} {next : Reply → Program Call α} {h : History Call} {r : Except Failure α}
    (ht : (call c next).Trace h r) : ∃ reply rest, h = .called c reply :: rest ∧ (next reply).Trace rest r := by
  cases ht with
  | step hs ht => cases hs with | call _ _ reply => exact ⟨reply, _, rfl, ht⟩

/-- A trace of a program that writes begins with the line, and the rest is one of the branch for what came of it. -/
theorem trace_write {line : Value} {next : Taken → Program Call α} {h : History Call} {r : Except Failure α}
    (ht : (write line next).Trace h r) : ∃ taken rest, h = .wrote line taken :: rest ∧ (next taken).Trace rest r := by
  cases ht with
  | step hs ht => cases hs with | write _ _ taken => exact ⟨taken, _, rfl, ht⟩

/-- A trace of a program that logs begins with the record. -/
theorem trace_log {record : LogRecord} {next : Program Call α} {h : History Call} {r : Except Failure α}
    (ht : (log record next).Trace h r) : ∃ rest, h = .logged record :: rest ∧ next.Trace rest r := by
  cases ht with
  | step hs ht => cases hs with | log => exact ⟨_, rfl, ht⟩

@[simp] theorem trace_ofReply_iff {x : Except Failure α} {h : History Call} {r : Except Failure α} :
    (ofReply x).Trace h r ↔ h = [] ∧ r = x := by
  cases x <;> simp [ofReply]

@[simp] theorem trace_ofValue_iff {x : Except Value.Fault α} {h : History Call} {r : Except Failure α} :
    (ofValue x).Trace h r ↔ h = [] ∧ r = x.mapError .value := by
  cases x with
  | ok a => exact trace_done_iff
  | error fault => exact trace_fail_iff

@[simp] theorem trace_ask_iff {c : Call} {h : History Call} {r : Reply} : (ask c).Trace h r ↔ h = [.called c r] := by
  constructor
  · intro ht
    obtain ⟨reply, _, rfl, hend⟩ := trace_call ht
    obtain ⟨rfl, rfl⟩ := trace_ofReply_iff.mp hend
    rfl
  · rintro rfl
    exact .step (.call c ofReply r) (trace_ofReply_iff.mpr ⟨rfl, rfl⟩)

@[simp] theorem trace_print_iff {line : Value} {h : History Call} {r : Taken} :
    (print line).Trace h r ↔ h = [.wrote line r] := by
  constructor
  · intro ht
    obtain ⟨taken, _, rfl, hend⟩ := trace_write ht
    obtain ⟨rfl, rfl⟩ := trace_ofReply_iff.mp hend
    rfl
  · rintro rfl
    exact .step (.write line ofReply r) (trace_ofReply_iff.mpr ⟨rfl, rfl⟩)

@[simp] theorem trace_note_iff {record : LogRecord} {h : History Call} {r : Except Failure Unit} :
    (note record).Trace h r ↔ h = [.logged record] ∧ r = .ok () := by
  constructor
  · intro ht
    obtain ⟨_, rfl, hend⟩ := trace_log ht
    obtain ⟨rfl, rfl⟩ := trace_done_iff.mp hend
    exact ⟨rfl, rfl⟩
  · rintro ⟨rfl, rfl⟩
    exact .step (.log record (.done ())) (.done ())

/-! ## Programs one after the other -/

/-- A step of one program after another is a step of the first, as long as the first has no result. -/
theorem step_bind {p : Program Call α} {f : α → Program Call β} {event : Event Call} {q : Program Call β}
    (h : (p.bind f).Step event q) : (∃ a, p = done a) ∨ ∃ p', p.Step event p' ∧ q = p'.bind f := by
  cases p with
  | done a => exact Or.inl ⟨a, rfl⟩
  | fail e => cases h
  | call c next => cases h with | call _ _ reply => exact Or.inr ⟨_, .call c next reply, rfl⟩
  | write line next => cases h with | write _ _ taken => exact Or.inr ⟨_, .write line next taken, rfl⟩
  | log record next => cases h with | log => exact Or.inr ⟨_, .log record next, rfl⟩

/-- A trace of one program after another is a trace of the first and then one of the second, or a failing one of the first. -/
theorem trace_bind {p : Program Call α} {f : α → Program Call β} {h : History Call} {r : Except Failure β}
    (ht : (p.bind f).Trace h r) :
    (∃ a first rest, h = first ++ rest ∧ p.Trace first (.ok a) ∧ (f a).Trace rest r) ∨
      ∃ e, p.Trace h (.error e) ∧ r = .error e := by
  induction h generalizing p with
  | nil =>
    cases p with
    | done a => exact Or.inl ⟨a, [], [], rfl, .done a, ht⟩
    | fail e => exact Or.inr ⟨e, .fail e, (trace_fail_iff.mp ht).2⟩
    | _ => cases ht
  | cons event h ih =>
    -- the first event belongs to the second program only where the first one is over
    cases p with
    | done a => exact Or.inl ⟨a, [], event :: h, rfl, .done a, ht⟩
    | fail e => exact absurd (trace_fail_iff.mp ht).1 nofun
    | _ =>
      cases ht with
      | step hs ht =>
        rcases step_bind hs with ⟨a, ha⟩ | ⟨p', hp, rfl⟩
        · cases ha
        · rcases ih ht with ⟨a, first, rest, rfl, hfirst, hrest⟩ | ⟨e, he, rfl⟩
          · exact Or.inl ⟨a, event :: first, rest, rfl, .step hp hfirst, hrest⟩
          · exact Or.inr ⟨e, .step hp he, rfl⟩

/-- A program that gives its result in another form has the same traces, with the result in that form. -/
theorem trace_bind_done {p : Program Call α} {g : α → β} {h : History Call} {r : Except Failure β}
    (ht : (p.bind fun a => done (g a)).Trace h r) : ∃ x, p.Trace h x ∧ r = x.map g := by
  rcases trace_bind ht with ⟨a, first, rest, rfl, hfirst, hrest⟩ | ⟨e, he, rfl⟩
  · obtain ⟨rfl, rfl⟩ := trace_done_iff.mp hrest
    exact ⟨.ok a, by simpa using hfirst, rfl⟩
  · exact ⟨.error e, he, rfl⟩

/-- A program that gives its result in another form has a result where the program does. -/
theorem trace_bind_done_ok {p : Program Call α} {g : α → β} {h : History Call} {b : β}
    (ht : (p.bind fun a => done (g a)).Trace h (.ok b)) : ∃ a, p.Trace h (.ok a) ∧ b = g a := by
  obtain ⟨x, hx, hb⟩ := trace_bind_done ht
  cases x with
  | ok a => exact ⟨a, hx, Except.ok.inj hb⟩
  | error e => cases hb

/-- A step of a program with a rescue is a step of the program, as long as that has not failed. -/
theorem step_handle {rescue : Failure → Program Call α} {p : Program Call α} {event : Event Call} {q : Program Call α}
    (h : (p.handle rescue).Step event q) : (∃ e, p = fail e) ∨ ∃ p', p.Step event p' ∧ q = p'.handle rescue := by
  cases p with
  | done a => cases h
  | fail e => exact Or.inl ⟨e, rfl⟩
  | call c next => cases h with | call _ _ reply => exact Or.inr ⟨_, .call c next reply, rfl⟩
  | write line next => cases h with | write _ _ taken => exact Or.inr ⟨_, .write line next taken, rfl⟩
  | log record next => cases h with | log => exact Or.inr ⟨_, .log record next, rfl⟩

/-- A trace of a program with a rescue is a trace without a failure, or a failing one and then one of the rescue. -/
theorem trace_handle {rescue : Failure → Program Call α} {p : Program Call α} {h : History Call} {r : Except Failure α}
    (ht : (p.handle rescue).Trace h r) :
    (∃ a, p.Trace h (.ok a) ∧ r = .ok a) ∨
      ∃ e first rest, h = first ++ rest ∧ p.Trace first (.error e) ∧ (rescue e).Trace rest r := by
  induction h generalizing p with
  | nil =>
    cases p with
    | done a => exact Or.inl ⟨a, .done a, (trace_done_iff.mp ht).2⟩
    | fail e => exact Or.inr ⟨e, [], [], rfl, .fail e, ht⟩
    | _ => cases ht
  | cons event h ih =>
    cases p with
    | done a => exact absurd (trace_done_iff.mp ht).1 nofun
    | fail e => exact Or.inr ⟨e, [], event :: h, rfl, .fail e, ht⟩
    | _ =>
      cases ht with
      | step hs ht =>
        rcases step_handle hs with ⟨e, he⟩ | ⟨p', hp, rfl⟩
        · cases he
        · rcases ih ht with ⟨a, ha, rfl⟩ | ⟨e, first, rest, rfl, hfirst, hrest⟩
          · exact Or.inl ⟨a, .step hp ha, rfl⟩
          · exact Or.inr ⟨e, event :: first, rest, rfl, .step hp hfirst, hrest⟩

/-- A trace that begins with a call: the call is answered and the rest goes on, or it fails and nothing follows. -/
theorem trace_ask_bind {c : Call} {f : Value → Program Call β} {h : History Call} {r : Except Failure β}
    (ht : ((ask c).bind f).Trace h r) :
    (∃ v rest, h = .called c (.ok v) :: rest ∧ (f v).Trace rest r) ∨ ∃ e, h = [.called c (.error e)] ∧ r = .error e := by
  rcases trace_bind ht with ⟨v, first, rest, rfl, hfirst, hrest⟩ | ⟨e, he, rfl⟩
  · rw [trace_ask_iff.mp hfirst]
    exact Or.inl ⟨v, rest, rfl, hrest⟩
  · exact Or.inr ⟨e, trace_ask_iff.mp he, rfl⟩

/-- A trace that begins with a line: the line is taken and the rest goes on, or it is refused and nothing follows. -/
theorem trace_print_bind {line : Value} {f : Unit → Program Call β} {h : History Call} {r : Except Failure β}
    (ht : ((print line).bind f).Trace h r) :
    (∃ rest, h = .wrote line (.ok ()) :: rest ∧ (f ()).Trace rest r) ∨
      ∃ e, h = [.wrote line (.error e)] ∧ r = .error e := by
  rcases trace_bind ht with ⟨_, first, rest, rfl, hfirst, hrest⟩ | ⟨e, he, rfl⟩
  · rw [trace_print_iff.mp hfirst]
    exact Or.inl ⟨rest, rfl, hrest⟩
  · exact Or.inr ⟨e, trace_print_iff.mp he, rfl⟩

/-- A trace that begins with a record: the rest goes on after it. -/
theorem trace_note_bind {record : LogRecord} {f : Unit → Program Call β} {h : History Call} {r : Except Failure β}
    (ht : ((note record).bind f).Trace h r) : ∃ rest, h = .logged record :: rest ∧ (f ()).Trace rest r := by
  rcases trace_bind ht with ⟨_, first, rest, rfl, hfirst, hrest⟩ | ⟨e, he, rfl⟩
  · rw [(trace_note_iff.mp hfirst).1]
    exact ⟨rest, rfl, hrest⟩
  · exact absurd (trace_note_iff.mp he).2 nofun

/-- A trace that begins with what is worked out of a value: the rest goes on with it, or there is a fault and nothing follows. -/
theorem trace_ofValue_bind {x : Except Value.Fault α} {f : α → Program Call β} {h : History Call} {r : Except Failure β}
    (ht : ((ofValue x).bind f).Trace h r) :
    (∃ a, x = .ok a ∧ (f a).Trace h r) ∨ ∃ fault, x = .error fault ∧ h = [] ∧ r = .error (.value fault) := by
  cases x with
  | ok a => exact Or.inl ⟨a, rfl, ht⟩
  | error fault => exact Or.inr ⟨fault, rfl, trace_fail_iff.mp ht⟩

/-- The records that the report of a failure leaves: one, unless the failure is an interrupt or the record cannot be written. -/
def reportOf (record : Failure → Except Value.Fault LogRecord) (e : Failure) : List LogRecord :=
  if e.isInterrupt then [] else (record e).toOption.toList

/-- The failure that leaves a program that reports its failures: the reported one, or the fault of its record where that cannot be
written. -/
def afterReport (record : Failure → Except Value.Fault LogRecord) (e : Failure) : Failure :=
  if e.isInterrupt then e
  else
    match record e with
    | .ok _ => e
    | .error fault => .value fault

/-- A failure that has a wording is left as it is by a report that tells it. -/
theorem afterReport_of_message (recordOf : String → LogRecord) {e : Failure} (hm : ∃ text, e.message = .ok text) :
    afterReport (fun e => e.message.map recordOf) e = e := by
  obtain ⟨text, hm⟩ := hm
  simp [afterReport, hm, Except.map]

/-- A trace of a program that reports its failures is one of the program itself, with the report after a failure. -/
theorem trace_reporting {record : Failure → Except Value.Fault LogRecord} {p : Program Call α} {h : History Call}
    {r : Except Failure α} (ht : (reporting record p).Trace h r) :
    (∃ a, p.Trace h (.ok a) ∧ r = .ok a) ∨
      ∃ e first, p.Trace first (.error e) ∧ h = first ++ (reportOf record e).map .logged ∧
        r = .error (afterReport record e) := by
  rcases trace_handle ht with ha | ⟨e, first, rest, rfl, hfirst, hrest⟩
  · exact Or.inl ha
  · refine Or.inr ⟨e, first, hfirst, ?_⟩
    unfold reportOf afterReport
    cases hi : e.isInterrupt with
    | true =>
      obtain ⟨rfl, rfl⟩ := trace_fail_iff.mp (by simpa only [hi, if_true] using hrest)
      exact ⟨rfl, rfl⟩
    | false =>
      simp only [hi, Bool.false_eq_true, if_false] at hrest ⊢
      rcases trace_ofValue_bind hrest with ⟨r, hr, hrest⟩ | ⟨fault, hf, rfl, rfl⟩
      · have hnote : ((note r).bind fun _ => fail e).Trace rest _ := hrest
        obtain ⟨rest, rfl, hfail⟩ := trace_note_bind hnote
        obtain ⟨rfl, rfl⟩ := trace_fail_iff.mp hfail
        rw [hr]
        exact ⟨rfl, rfl⟩
      · rw [hf]
        exact ⟨rfl, rfl⟩

/-- A trace that begins with a program that reports its failures: the rest goes on with its result, or nothing follows the
report. -/
theorem trace_reporting_bind {record : Failure → Except Value.Fault LogRecord} {p : Program Call α}
    {f : α → Program Call β} {h : History Call} {r : Except Failure β} (ht : ((reporting record p).bind f).Trace h r) :
    (∃ a first rest, h = first ++ rest ∧ p.Trace first (.ok a) ∧ (f a).Trace rest r) ∨
      ∃ e first, p.Trace first (.error e) ∧ h = first ++ (reportOf record e).map .logged ∧
        r = .error (afterReport record e) := by
  rcases trace_bind ht with ⟨a, first, rest, rfl, hfirst, hrest⟩ | ⟨e, he, rfl⟩
  · rcases trace_reporting hfirst with ⟨a', ha, hx⟩ | ⟨_, _, _, _, hx⟩
    · cases hx
      exact Or.inl ⟨a, first, rest, rfl, ha, hrest⟩
    · cases hx
  · rcases trace_reporting he with ⟨_, _, hx⟩ | ⟨e', first, hfirst, rfl, hx⟩
    · cases hx
    · cases hx
      exact Or.inr ⟨e', first, hfirst, rfl, rfl⟩

end Program

end AccelProbe
