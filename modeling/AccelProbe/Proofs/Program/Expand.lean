import AccelProbe.Proofs.Program.Trace

/-!
# Programs with their calls worked out

A section asks a backend questions, and a backend puts each to its library as a program of its own. So the section over any backend
is the section over one that answers the questions itself, with every question worked out: `expand` puts a program in place of
every call. `trace_expand` takes a trace of the worked-out program back to one of the program as it was; what is known of the
latter then holds of the section over every backend.
-/

namespace AccelProbe

namespace Program

variable {Call Call' α β : Type}

/-- The same program, with its failure as a result. -/
def attempt : Program Call α → Program Call (Except Failure α)
  | done a => done (.ok a)
  | fail e => done (.error e)
  | call c next => call c fun reply => (next reply).attempt
  | write line next => write line fun taken => (next taken).attempt
  | log record next => log record next.attempt

/-- A program with another one in place of each of its calls. What comes of that one is the answer to the call. -/
def expand (f : Call → Program Call' Value) : Program Call α → Program Call' α
  | done a => done a
  | fail e => fail e
  | call c next => (f c).attempt.bind fun reply => (next reply).expand f
  | write line next => write line fun taken => (next taken).expand f
  | log record next => log record (next.expand f)

/-- An attempt that is taken back is the program itself. -/
theorem attempt_bind_ofReply (p : Program Call α) : p.attempt.bind ofReply = p := by
  induction p with
  | done a => rfl
  | fail e => rfl
  | call c next ih => simp only [attempt, bind, ih]
  | write line next ih => simp only [attempt, bind, ih]
  | log record next ih => simp only [attempt, bind, ih]

/-- A rescue does not change an attempt, which does not fail; it guards what comes after it. -/
theorem handle_attempt_bind (rescue : Failure → Program Call β) (p : Program Call α)
    (f : Except Failure α → Program Call β) :
    (p.attempt.bind f).handle rescue = p.attempt.bind fun x => (f x).handle rescue := by
  induction p with
  | done a => rfl
  | fail e => rfl
  | call c next ih => simp only [attempt, bind, handle, ih]
  | write line next ih => simp only [attempt, bind, handle, ih]
  | log record next ih => simp only [attempt, bind, handle, ih]

/-! ## Working out a program part by part -/

section

variable (f : Call → Program Call' Value)

@[simp] theorem expand_done (a : α) : (done a).expand f = done a := rfl

@[simp] theorem expand_bind (p : Program Call α) (g : α → Program Call β) :
    (p.bind g).expand f = (p.expand f).bind fun a => (g a).expand f := by
  induction p with
  | done a => rfl
  | fail e => rfl
  | call c next ih => simp only [bind, expand, ih, bind_assoc]
  | write line next ih => simp only [bind, expand, ih]
  | log record next ih => simp only [bind, expand, ih]

@[simp] theorem expand_ask (c : Call) : (ask c).expand f = f c := by
  have hreply : ∀ reply : Reply, (ofReply reply : Program Call Value).expand f = ofReply reply := by
    intro reply
    cases reply <;> rfl
  rw [ask, expand]
  simp only [hreply]
  exact attempt_bind_ofReply (f c)

@[simp] theorem expand_ofValue (x : Except Value.Fault α) : (ofValue x).expand f = ofValue x := by
  cases x <;> rfl

@[simp] theorem expand_note (record : LogRecord) : (note record).expand f = note record := rfl

@[simp] theorem expand_print (line : Value) : (print line).expand f = print line := by
  rw [print, expand]
  congr 1
  funext taken
  cases taken <;> rfl

@[simp] theorem expand_printAll (lines : List Value) : (printAll lines).expand f = printAll lines := by
  induction lines with
  | nil => rfl
  | cons line lines ih => simp only [printAll, expand_bind, expand_print, ih]

@[simp] theorem expand_ite (c : Prop) [Decidable c] (p q : Program Call α) :
    (if c then p else q).expand f = if c then p.expand f else q.expand f := apply_ite (expand f) ..

theorem expand_handle (rescue : Failure → Program Call α) (p : Program Call α) :
    (p.handle rescue).expand f = (p.expand f).handle fun e => (rescue e).expand f := by
  induction p with
  | done a => rfl
  | fail e => rfl
  | call c next ih => simp only [handle, expand, ih, handle_attempt_bind]
  | write line next ih => simp only [handle, expand, ih]
  | log record next ih => simp only [handle, expand, ih]

@[simp] theorem expand_reporting (record : Failure → Except Value.Fault LogRecord) (p : Program Call α) :
    (reporting record p).expand f = reporting record (p.expand f) := by
  rw [reporting, expand_handle]
  unfold reporting
  congr 1
  funext e
  split
  · rfl
  · rw [expand_bind, expand_ofValue]
    rfl

end

/-! ## Other names of the calls -/

section

variable {Call'' : Type} (g : Call' → Call'')

theorem rename_bind (p : Program Call' α) (f : α → Program Call' β) :
    (p.bind f).rename g = (p.rename g).bind fun a => (f a).rename g := by
  induction p with
  | done a => rfl
  | fail e => rfl
  | call c next ih => simp only [bind, rename, ih]
  | write line next ih => simp only [bind, rename, ih]
  | log record next ih => simp only [bind, rename, ih]

theorem attempt_rename (p : Program Call' α) : (p.rename g).attempt = p.attempt.rename g := by
  induction p with
  | done a => rfl
  | fail e => rfl
  | call c next ih => simp only [attempt, rename, ih]
  | write line next ih => simp only [attempt, rename, ih]
  | log record next ih => simp only [attempt, rename, ih]

/-- What is worked out by programs under other names is what is worked out, under those names. -/
theorem expand_rename (f : Call → Program Call' Value) (p : Program Call α) :
    p.expand (fun c => (f c).rename g) = (p.expand f).rename g := by
  induction p with
  | done a => rfl
  | fail e => rfl
  | call c next ih => simp only [expand, rename_bind, attempt_rename, ih]
  | write line next ih => simp only [expand, rename, ih]
  | log record next ih => simp only [expand, rename, ih]

end

/-! ## Traces of what is worked out -/

/-- Whether the second history is the first one with its calls worked out: a part of its own stands in place of each call. -/
inductive Expands (f : Call → Program Call' Value) : History Call → History Call' → Prop where
  /-- Nothing happened. -/
  | nil : Expands f [] []
  /-- A call, with a trace of its program in its place. -/
  | call {c : Call} {reply : Reply} {part : History Call'} {h : History Call} {h' : History Call'} :
      (f c).Trace part reply → Expands f h h' → Expands f (.called c reply :: h) (part ++ h')
  /-- A line. -/
  | write (line : Value) (taken : Taken) {h : History Call} {h' : History Call'} :
      Expands f h h' → Expands f (.wrote line taken :: h) (.wrote line taken :: h')
  /-- A record. -/
  | log (record : LogRecord) {h : History Call} {h' : History Call'} :
      Expands f h h' → Expands f (.logged record :: h) (.logged record :: h')

/-- The part of a call stands first where the call does. -/
theorem Expands.of_called {f : Call → Program Call' Value} {c : Call} {reply : Reply} {h : History Call} {h' : History Call'}
    (he : Expands f (.called c reply :: h) h') :
    ∃ part rest, h' = part ++ rest ∧ (f c).Trace part reply ∧ Expands f h rest := by
  cases he with
  | call hpart he => exact ⟨_, _, rfl, hpart, he⟩

/-- A record stands first where it does. -/
theorem Expands.of_logged {f : Call → Program Call' Value} {record : LogRecord} {h : History Call} {h' : History Call'}
    (he : Expands f (.logged record :: h) h') : ∃ rest, h' = .logged record :: rest ∧ Expands f h rest := by
  cases he with
  | log _ he => exact ⟨_, rfl, he⟩

/-- An attempt goes through the events of the program and ends with what came of it. -/
theorem trace_attempt {p : Program Call α} {h : History Call} {r : Except Failure (Except Failure α)}
    (ht : p.attempt.Trace h r) : ∃ x, p.Trace h x ∧ r = .ok x := by
  induction p generalizing h with
  | done a =>
    obtain ⟨rfl, rfl⟩ := trace_done_iff.mp ht
    exact ⟨.ok a, .done a, rfl⟩
  | fail e =>
    obtain ⟨rfl, rfl⟩ := trace_done_iff.mp ht
    exact ⟨.error e, .fail e, rfl⟩
  | call c next ih =>
    obtain ⟨reply, _, rfl, hrest⟩ := trace_call ht
    obtain ⟨x, hx, rfl⟩ := ih reply hrest
    exact ⟨x, .step (.call c next reply) hx, rfl⟩
  | write line next ih =>
    obtain ⟨taken, _, rfl, hrest⟩ := trace_write ht
    obtain ⟨x, hx, rfl⟩ := ih taken hrest
    exact ⟨x, .step (.write line next taken) hx, rfl⟩
  | log record next ih =>
    obtain ⟨_, rfl, hrest⟩ := trace_log ht
    obtain ⟨x, hx, rfl⟩ := ih hrest
    exact ⟨x, .step (.log record next) hx, rfl⟩

/-- A trace of a worked-out program works out a trace of the program, with the same end. -/
theorem trace_expand {f : Call → Program Call' Value} {p : Program Call α} {h' : History Call'} {r : Except Failure α}
    (ht : (p.expand f).Trace h' r) : ∃ h, p.Trace h r ∧ Expands f h h' := by
  induction p generalizing h' with
  | done a =>
    obtain ⟨rfl, rfl⟩ := trace_done_iff.mp ht
    exact ⟨[], .done a, .nil⟩
  | fail e =>
    obtain ⟨rfl, rfl⟩ := trace_fail_iff.mp ht
    exact ⟨[], .fail e, .nil⟩
  | call c next ih =>
    rcases trace_bind ht with ⟨reply, part, rest, rfl, hpart, hrest⟩ | ⟨e, he, rfl⟩
    · obtain ⟨_, hc, hx⟩ := trace_attempt hpart
      cases hx
      obtain ⟨h, hnext, hexp⟩ := ih reply hrest
      exact ⟨_, .step (.call c next reply) hnext, .call hc hexp⟩
    · obtain ⟨_, _, hx⟩ := trace_attempt he
      cases hx
  | write line next ih =>
    obtain ⟨taken, _, rfl, hrest⟩ := trace_write ht
    obtain ⟨h, hnext, hexp⟩ := ih taken hrest
    exact ⟨_, .step (.write line next taken) hnext, .write line taken hexp⟩
  | log record next ih =>
    obtain ⟨_, rfl, hrest⟩ := trace_log ht
    obtain ⟨h, hnext, hexp⟩ := ih hrest
    exact ⟨_, .step (.log record next) hnext, .log record hexp⟩

end Program

end AccelProbe
