import AccelProbe.Proofs.Program.Expand

/-!
# What holds of every event of a program

`Every P p` folds a property of events over the tree of a program: whatever the calls are answered and whichever lines are taken,
each event has it. The property passes through the pieces of which programs are made, so it is known of a program as soon as it is
known of its calls, its lines and its records. A program that only calls its library is `Quiet`.
-/

namespace AccelProbe

variable {Call Call' : Type}

/-- The same event with its call under another name. -/
def Event.rename (f : Call → Call') : Event Call → Event Call'
  | .called c reply => .called (f c) reply
  | .wrote line taken => .wrote line taken
  | .logged record => .logged record

/-- Whether an event is a call. -/
def Event.IsCall : Event Call → Prop
  | .called _ _ => True
  | _ => False

namespace Program

variable {α β : Type} {P : Event Call → Prop}

/-- Whether every event of a program has a property, on every way through it. -/
def Every (P : Event Call → Prop) : Program Call α → Prop
  | done _ => True
  | fail _ => True
  | call c next => ∀ reply, P (.called c reply) ∧ (next reply).Every P
  | write line next => ∀ taken, P (.wrote line taken) ∧ (next taken).Every P
  | log record next => P (.logged record) ∧ next.Every P

/-- Whether a program does nothing but call its library. -/
def Quiet (p : Program Call α) : Prop := p.Every Event.IsCall

/-- One step of a program of which every event has a property: this one has it, and every one of the program that is left. -/
theorem Every.step {p q : Program Call α} {event : Event Call} (hp : p.Every P) (hs : p.Step event q) :
    P event ∧ q.Every P := by
  cases hs with
  | call c next reply => exact hp reply
  | write line next taken => exact hp taken
  | log record next => exact hp

/-- Every event of a trace has what every event of the program has. -/
theorem Every.trace {p : Program Call α} {h : History Call} {r : Except Failure α} (hp : p.Every P) (ht : p.Trace h r) :
    ∀ event ∈ h, P event := by
  induction ht with
  | done a => exact nofun
  | fail e => exact nofun
  | step hs _ ih =>
    obtain ⟨hevent, hq⟩ := hp.step hs
    exact List.forall_mem_cons.mpr ⟨hevent, ih hq⟩

/-- Every event has what follows from something that every event has. -/
theorem Every.mono {Q : Event Call → Prop} {p : Program Call α} (hp : p.Every P) (hq : ∀ event, P event → Q event) :
    p.Every Q := by
  induction p with
  | done a => exact trivial
  | fail e => exact trivial
  | call c next ih => exact fun reply => ⟨hq _ (hp reply).1, ih reply (hp reply).2⟩
  | write line next ih => exact fun taken => ⟨hq _ (hp taken).1, ih taken (hp taken).2⟩
  | log record next ih => exact ⟨hq _ hp.1, ih hp.2⟩

/-- Every event has what all events have. -/
theorem every_of_forall (hP : ∀ event, P event) (p : Program Call α) : p.Every P := by
  induction p with
  | done a => exact trivial
  | fail e => exact trivial
  | call c next ih => exact fun reply => ⟨hP _, ih reply⟩
  | write line next ih => exact fun taken => ⟨hP _, ih taken⟩
  | log record next ih => exact ⟨hP _, ih⟩

/-- A program runs alike in two worlds that agree on what it can meet: on its calls and its lines, after histories of such events. -/
theorem Every.run_congr {p : Program Call α} (hp : p.Every P) {w w' : World Call}
    (hanswer : ∀ h c, (∀ event ∈ h, P event) → (∀ reply, P (.called c reply)) → w'.answer h c = w.answer h c)
    (htake : ∀ h line, (∀ event ∈ h, P event) → w'.take h line = w.take h line) {h : History Call}
    (hh : ∀ event ∈ h, P event) : p.run w' h = p.run w h := by
  have hsnoc : ∀ {h : History Call} {event : Event Call}, (∀ event ∈ h, P event) → P event →
      ∀ event' ∈ h ++ [event], P event' := by
    intro h event hh he event' hm
    rcases List.mem_append.mp hm with hm | hm
    · exact hh event' hm
    · exact (List.mem_singleton.mp hm) ▸ he
  induction p generalizing h with
  | done a => rfl
  | fail e => rfl
  | call c next ih =>
    rw [run, run, hanswer h c hh fun reply => (hp reply).1]
    exact ih _ (hp _).2 (hsnoc hh (hp _).1)
  | write line next ih =>
    rw [run, run, htake h line hh]
    exact ih _ (hp _).2 (hsnoc hh (hp _).1)
  | log record next ih => exact ih hp.2 (hsnoc hh hp.1)

/-- Every event of a quiet program has what every call has. -/
theorem Quiet.every {p : Program Call α} (hp : p.Quiet) (hc : ∀ c reply, P (.called c reply)) : p.Every P :=
  hp.mono fun event he => by
    cases event with
    | called c reply => exact hc c reply
    | _ => exact he.elim

/-! ## The pieces of a program -/

theorem Every.bind {p : Program Call α} {f : α → Program Call β} (hp : p.Every P) (hf : ∀ a, (f a).Every P) :
    (p.bind f).Every P := by
  induction p with
  | done a => exact hf a
  | fail e => exact trivial
  | call c next ih => exact fun reply => ⟨(hp reply).1, ih reply (hp reply).2⟩
  | write line next ih => exact fun taken => ⟨(hp taken).1, ih taken (hp taken).2⟩
  | log record next ih => exact ⟨hp.1, ih hp.2⟩

theorem every_ofReply (x : Except Failure α) : (ofReply x : Program Call α).Every P := by
  cases x <;> exact trivial

theorem every_ofValue (x : Except Value.Fault α) : (ofValue x : Program Call α).Every P := by
  cases x <;> exact trivial

theorem every_ofValue_bind {x : Except Value.Fault α} {f : α → Program Call β} (hf : ∀ a, x = .ok a → (f a).Every P) :
    ((ofValue x).bind f).Every P := by
  cases x with
  | ok a => exact hf a rfl
  | error fault => exact trivial

theorem every_ask {c : Call} (hc : ∀ reply, P (.called c reply)) : (ask c).Every P :=
  fun reply => ⟨hc reply, every_ofReply reply⟩

theorem every_print {line : Value} (hl : ∀ taken, P (.wrote line taken)) : (print line).Every P :=
  fun taken => ⟨hl taken, every_ofReply taken⟩

theorem every_printAll {lines : List Value} (hl : ∀ line taken, P (.wrote line taken)) : (printAll lines).Every P := by
  induction lines with
  | nil => exact trivial
  | cons line lines ih => exact (every_print (hl line)).bind fun _ => ih

theorem every_note {record : LogRecord} (hr : P (.logged record)) : (note record).Every P := ⟨hr, trivial⟩

theorem Every.handle {rescue : Failure → Program Call α} {p : Program Call α} (hp : p.Every P)
    (hr : ∀ e, (rescue e).Every P) : (p.handle rescue).Every P := by
  induction p with
  | done a => exact trivial
  | fail e => exact hr e
  | call c next ih => exact fun reply => ⟨(hp reply).1, ih reply (hp reply).2⟩
  | write line next ih => exact fun taken => ⟨(hp taken).1, ih taken (hp taken).2⟩
  | log record next ih => exact ⟨hp.1, ih hp.2⟩

theorem Every.reporting {record : Failure → Except Value.Fault LogRecord} {p : Program Call α} (hp : p.Every P)
    (hr : ∀ e r, record e = .ok r → P (.logged r)) : (reporting record p).Every P := by
  refine hp.handle ?_
  intro e
  split
  · exact trivial
  · cases hre : record e with
    | ok r => exact ⟨hr e r hre, trivial⟩
    | error fault => exact trivial

theorem Every.rename {f : Call → Call'} {Q : Event Call' → Prop} {p : Program Call α} (hp : p.Every fun event => Q (event.rename f)) :
    (p.rename f).Every Q := by
  induction p with
  | done a => exact trivial
  | fail e => exact trivial
  | call c next ih => exact fun reply => ⟨(hp reply).1, ih reply (hp reply).2⟩
  | write line next ih => exact fun taken => ⟨(hp taken).1, ih taken (hp taken).2⟩
  | log record next ih => exact ⟨hp.1, ih hp.2⟩

/-- A quiet program is quiet under other names of its calls. -/
theorem Quiet.rename (f : Call → Call') {p : Program Call α} (hp : p.Quiet) : (p.rename f).Quiet := by
  refine Every.rename (hp.mono ?_)
  intro event he
  cases event with
  | called c reply => exact he
  | _ => exact he.elim

/-- A trace of a program under other names of its calls is one of the program, with its calls under those names. -/
theorem trace_rename {f : Call → Call'} {p : Program Call α} {h' : History Call'} {r : Except Failure α}
    (ht : (p.rename f).Trace h' r) : ∃ h, p.Trace h r ∧ h' = h.map (Event.rename f) := by
  induction p generalizing h' with
  | done a =>
    obtain ⟨rfl, rfl⟩ := trace_done_iff.mp ht
    exact ⟨[], .done a, rfl⟩
  | fail e =>
    obtain ⟨rfl, rfl⟩ := trace_fail_iff.mp ht
    exact ⟨[], .fail e, rfl⟩
  | call c next ih =>
    obtain ⟨reply, _, rfl, hrest⟩ := trace_call ht
    obtain ⟨h, hnext, rfl⟩ := ih reply hrest
    exact ⟨_, .step (.call c next reply) hnext, rfl⟩
  | write line next ih =>
    obtain ⟨taken, _, rfl, hrest⟩ := trace_write ht
    obtain ⟨h, hnext, rfl⟩ := ih taken hrest
    exact ⟨_, .step (.write line next taken) hnext, rfl⟩
  | log record next ih =>
    obtain ⟨_, rfl, hrest⟩ := trace_log ht
    obtain ⟨h, hnext, rfl⟩ := ih hrest
    exact ⟨_, .step (.log record next) hnext, rfl⟩

end Program

end AccelProbe
