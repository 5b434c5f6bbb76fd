import AccelProbe.Proofs.Program.Course
import AccelProbe.Proofs.Program.Expand

/-!
# What a program comes to, whatever happened before

The other modules take apart what can come of a program in any world; here the world is known to answer well, and what comes of the
program is put together. `Gives` says that a program has a result of some kind after every history. `Reaches` says it of a program
over a backend: what the program does is the course of its questions, each worked out, and that course with the end of the program is
of some kind. There is one rule for each piece that a section is made of.
-/

namespace AccelProbe

/-- Whether the sink of a world takes every line. -/
def World.TakesAll {Call : Type} (w : World Call) : Prop := ∀ h line, w.take h line = .ok ()

namespace Program

variable {Call Call' α β : Type}

theorem run_ask (w : World Call) (c : Call) (h : History Call) :
    (ask c).run w h = (h ++ [.called c (w.answer h c)], w.answer h c) := by
  rw [ask, run]
  cases w.answer h c <;> rfl

/-- A program with a rescue runs as the program does, and after a failure of it as the rescue does. -/
theorem run_handle (w : World Call) (rescue : Failure → Program Call α) (p : Program Call α) (h : History Call) :
    (p.handle rescue).run w h =
      match p.run w h with
      | (h', .ok a) => (h', .ok a)
      | (h', .error e) => (rescue e).run w h' := by
  induction p generalizing h with
  | done a => rfl
  | fail e => rfl
  | call c next ih => simp only [handle, run, ih]
  | write line next ih => simp only [handle, run, ih]
  | log r next ih => simp only [handle, run, ih]

/-- A program that reports its failures runs as the program does; after a failure of it come the records of the report, and the
failure, or the fault of a record that cannot be written. -/
theorem run_reporting (w : World Call) (record : Failure → Except Value.Fault LogRecord) (p : Program Call α) (h : History Call) :
    (reporting record p).run w h =
      match p.run w h with
      | (h', .ok a) => (h', .ok a)
      | (h', .error e) => (h' ++ (reportOf record e).map .logged, .error (afterReport record e)) := by
  rw [reporting, run_handle]
  obtain ⟨h', r⟩ := p.run w h
  cases r with
  | ok a => rfl
  | error e =>
    unfold reportOf afterReport
    cases hi : e.isInterrupt with
    | true => simp [hi, run]
    | false =>
      cases hr : record e with
      | ok r => simp [hi, hr, ofValue, run, Except.toOption]
      | error fault => simp [hi, hr, ofValue, bind, run, Except.toOption]

/-- Two histories with their calls worked out, one after the other. -/
theorem Expands.append {f : Call → Program Call' Value} {h₁ h₂ : History Call} {h₁' h₂' : History Call'}
    (he₁ : Expands f h₁ h₁') (he₂ : Expands f h₂ h₂') : Expands f (h₁ ++ h₂) (h₁' ++ h₂') := by
  induction he₁ with
  | nil => exact he₂
  | @call c reply part h h' ht _ ih =>
    rw [List.append_assoc]
    exact .call ht ih
  | write line taken _ ih => exact .write line taken ih
  | log record _ ih => exact .log record ih

/-- Records have nothing to be worked out. -/
theorem Expands.of_records (f : Call → Program Call' Value) (records : List LogRecord) :
    Expands f (records.map .logged) (records.map .logged) := by
  induction records with
  | nil => exact .nil
  | cons record records ih => exact .log record ih

/-! ## Results of some kind -/

/-- Whether a program in a world ends in some way, whatever happened before. -/
def Ends (w : World Call) (p : Program Call α) (P : Except Failure α → Prop) : Prop := ∀ h, P (p.run w h).2

/-- Whether a program in a world has a result of some kind, whatever happened before. -/
def Gives (w : World Call) (p : Program Call α) (P : α → Prop) : Prop := p.Ends w fun r => ∃ a, r = .ok a ∧ P a

namespace Gives

variable {w : World Call} {P : α → Prop} {Q : β → Prop}

theorem done {a : α} (ha : P a) : (done a).Gives w P := fun _ => ⟨a, rfl, ha⟩

/-- A call has the answer that the world always gives to it. -/
theorem ask {c : Call} {P : Value → Prop} (hc : ∀ h, ∃ v, w.answer h c = .ok v ∧ P v) : (Program.ask c).Gives w P := by
  intro h
  obtain ⟨v, hv, hP⟩ := hc h
  exact ⟨v, by rw [run_ask, hv], hP⟩

theorem ofValue {x : Except Value.Fault α} {a : α} (hx : x = .ok a) (ha : P a) : (Program.ofValue x).Gives w P := by
  subst hx
  exact done ha

/-- One program after another gives what the second gives for each result of the first. -/
theorem bind {p : Program Call α} {k : α → Program Call β} (hp : p.Gives w P) (hk : ∀ a, P a → (k a).Gives w Q) :
    (p.bind k).Gives w Q := by
  intro h
  obtain ⟨a, hrun, ha⟩ := hp h
  rw [run_bind, show p.run w h = ((p.run w h).1, .ok a) from Prod.ext rfl hrun]
  exact hk a ha _

end Gives

/-! ## Courses of some kind -/

/-- Whether a run of a program goes through a course of calls, each of them worked out, which is of some kind together with the end
of the program, whatever happened before. -/
def Reaches (f : Call → Program Call' Value) (w : World Call') (p : Program Call' α)
    (Q : History Call → Except Failure α → Prop) : Prop :=
  ∀ before, ∃ added course, (p.run w before).1 = before ++ added ∧ Expands f course added ∧ Q course (p.run w before).2

namespace Reaches

variable {f : Call → Program Call' Value} {w : World Call'} {Q : History Call → Except Failure α → Prop}

theorem done {a : α} (hQ : Q [] (.ok a)) : Reaches f w (done a) Q :=
  fun before => ⟨[], [], (List.append_nil before).symm, .nil, hQ⟩

theorem fail {e : Failure} (hQ : Q [] (.error e)) : Reaches f w (fail e) Q :=
  fun before => ⟨[], [], (List.append_nil before).symm, .nil, hQ⟩

/-- A course and an end of one kind are of a wider one. -/
theorem mono {p : Program Call' α} {Q' : History Call → Except Failure α → Prop} (hp : Reaches f w p Q)
    (h : ∀ course r, Q course r → Q' course r) : Reaches f w p Q' := by
  intro before
  obtain ⟨added, course, hadded, hexp, hQ⟩ := hp before
  exact ⟨added, course, hadded, hexp, h course _ hQ⟩

/-- A call goes first in the course, with what comes of working it out. After a failure nothing follows. -/
theorem call {c : Call} {k : Value → Program Call' α} {P : Reply → Prop} (hc : (f c).Ends w P)
    (hk : ∀ v, P (.ok v) → Reaches f w (k v) fun course r => Q (.called c (.ok v) :: course) r)
    (he : ∀ e, P (.error e) → Q [.called c (.error e)] (.error e)) : Reaches f w ((f c).bind k) Q := by
  intro before
  obtain ⟨part, hpart, ht, -⟩ := run_trace w (f c) before
  have hend : P ((f c).run w before).2 := hc before
  have hrun : (f c).run w before = (before ++ part, ((f c).run w before).2) := Prod.ext hpart rfl
  rw [run_bind, hrun]
  cases hreply : ((f c).run w before).2 with
  | ok v =>
    rw [hreply] at hend ht
    obtain ⟨added, course, hadded, hexp, hQ⟩ := hk v hend (before ++ part)
    exact ⟨part ++ added, .called c (.ok v) :: course, by rw [← List.append_assoc]; exact hadded, .call ht hexp, hQ⟩
  | error e =>
    rw [hreply] at hend ht
    refine ⟨part, [.called c (.error e)], rfl, ?_, he e hend⟩
    rw [← List.append_nil part]
    exact .call ht .nil

/-- A call that always has a result goes first in the course. -/
theorem given {c : Call} {k : Value → Program Call' α} {P : Value → Prop} (hc : (f c).Gives w P)
    (hk : ∀ v, P v → Reaches f w (k v) fun course r => Q (.called c (.ok v) :: course) r) : Reaches f w ((f c).bind k) Q := by
  refine call hc ?_ ?_
  · rintro v ⟨_, hv, hP⟩
    cases hv
    exact hk v hP
  · rintro e ⟨_, he, -⟩
    cases he

theorem ofValue {x : Except Value.Fault β} {k : β → Program Call' α} {b : β} (hx : x = .ok b) (hk : Reaches f w (k b) Q) :
    Reaches f w ((Program.ofValue x).bind k) Q := by
  subst hx
  exact hk

theorem ofValue_error {x : Except Value.Fault β} {k : β → Program Call' α} {fault : Value.Fault} (hx : x = .error fault)
    (hQ : Q [] (.error (.value fault))) : Reaches f w ((Program.ofValue x).bind k) Q := by
  subst hx
  exact fail hQ

/-- A record goes first in the course. -/
theorem note {record : LogRecord} {k : Unit → Program Call' α}
    (hk : Reaches f w (k ()) fun course r => Q (.logged record :: course) r) :
    Reaches f w ((Program.note record).bind k) Q := by
  intro before
  obtain ⟨added, course, hadded, hexp, hQ⟩ := hk (before ++ [.logged record])
  exact ⟨.logged record :: added, .logged record :: course, by rw [List.append_cons]; exact hadded, .log record hexp, hQ⟩

/-- A line that is taken goes first in the course. -/
theorem print {line : Value} {k : Unit → Program Call' α} (hw : w.TakesAll)
    (hk : Reaches f w (k ()) fun course r => Q (.wrote line (.ok ()) :: course) r) :
    Reaches f w ((Program.print line).bind k) Q := by
  intro before
  obtain ⟨added, course, hadded, hexp, hQ⟩ := hk (before ++ [.wrote line (.ok ())])
  have hrun : ((Program.print line).bind k).run w before = (k ()).run w (before ++ [.wrote line (.ok ())]) := by
    rw [Program.print, Program.bind, run, hw before line]
    rfl
  rw [hrun]
  exact ⟨.wrote line (.ok ()) :: added, .wrote line (.ok ()) :: course, by rw [hadded]; simp,
    .write line _ hexp, hQ⟩

/-- Lines that are taken go first in the course. -/
theorem printAll {lines : List Value} {k : Unit → Program Call' α} (hw : w.TakesAll)
    (hk : Reaches f w (k ()) fun course r => Q (.ofLines lines ++ course) r) :
    Reaches f w ((Program.printAll lines).bind k) Q := by
  induction lines generalizing Q with
  | nil => exact hk
  | cons line lines ih =>
    rw [Program.printAll, bind_assoc]
    exact print hw (ih hk)

/-- A program that goes first has its course first; the rest follows only its result. -/
theorem bind {p : Program Call' β} {k : β → Program Call' α} {P : History Call → Except Failure β → Prop}
    (hp : Reaches f w p P) (hk : ∀ course b, P course (.ok b) → Reaches f w (k b) fun rest r => Q (course ++ rest) r)
    (he : ∀ course e, P course (.error e) → Q course (.error e)) : Reaches f w (p.bind k) Q := by
  intro before
  obtain ⟨first, course, hfirst, hexp, hP⟩ := hp before
  have hrun : p.run w before = (before ++ first, (p.run w before).2) := Prod.ext hfirst rfl
  rw [run_bind, hrun]
  cases hend : (p.run w before).2 with
  | ok b =>
    rw [hend] at hP
    obtain ⟨added, rest, hadded, hrest, hQ⟩ := hk course b hP (before ++ first)
    exact ⟨first ++ added, course ++ rest, by rw [← List.append_assoc]; exact hadded, hexp.append hrest, hQ⟩
  | error e =>
    rw [hend] at hP
    exact ⟨first, course, rfl, hexp, he course e hP⟩

/-- A program that reports its failures has its own course, with the report after a failure. -/
theorem reporting {record : Failure → Except Value.Fault LogRecord} {p : Program Call' α}
    (hp : Reaches f w p fun course r => match r with
      | .ok a => Q course (.ok a)
      | .error e => Q (course ++ (reportOf record e).map .logged) (.error (afterReport record e))) :
    Reaches f w (Program.reporting record p) Q := by
  intro before
  obtain ⟨added, course, hadded, hexp, hQ⟩ := hp before
  have hrun : p.run w before = (before ++ added, (p.run w before).2) := Prod.ext hadded rfl
  rw [run_reporting, hrun]
  cases hend : (p.run w before).2 with
  | ok a =>
    rw [hend] at hQ
    exact ⟨added, course, rfl, hexp, hQ⟩
  | error e =>
    rw [hend] at hQ
    exact ⟨added ++ (reportOf record e).map .logged, course ++ (reportOf record e).map .logged, List.append_assoc ..,
      hexp.append (.of_records f _), hQ⟩

end Reaches

end Program

end AccelProbe
