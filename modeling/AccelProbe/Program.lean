import AccelProbe.Failure
import AccelProbe.Logging.State

/-!
# Programs that talk to a tensor library

A program calls a library, writes lines to a sink and logs records, one after the other, and ends with a result or a failure. A
call is answered with a value or a failure, and a line is taken or refused; logging never fails. What a program does depends on
the answers alone, so it is a tree: `Program` has a node for each step, with a branch for every answer.

A `World` answers the calls and takes the lines. It may look at the whole history so far, so it may change its answers at will.
`run` walks a program through a world and gives the history with the result. Nothing of a program happens after its failure.
-/

namespace AccelProbe

/-- The answer to a call: a value or a failure. -/
abbrev Reply := Except Failure Value

/-- Whether the sink took a line. -/
abbrev Taken := Except Failure Unit

/-- A program with the given calls and the given kind of result. -/
inductive Program (Call α : Type) where
  /-- The program ends with a result. -/
  | done (a : α)
  /-- The program ends with a failure. -/
  | fail (e : Failure)
  /-- The library is called. -/
  | call (c : Call) (next : Reply → Program Call α)
  /-- A line is written. -/
  | write (line : Value) (next : Taken → Program Call α)
  /-- A record is logged. -/
  | log (r : LogRecord) (next : Program Call α)

/-- What happened at one step of a program. -/
inductive Event (Call : Type) where
  /-- A call was made and answered. -/
  | called (c : Call) (reply : Reply)
  /-- A line was written, and taken or refused. -/
  | wrote (line : Value) (taken : Taken)
  /-- A record was logged. -/
  | logged (r : LogRecord)

/-- What happened so far, the earliest first. -/
abbrev History (Call : Type) := List (Event Call)

namespace History

variable {Call : Type}

/-- The calls that were made. -/
def calls (h : History Call) : List Call :=
  h.filterMap fun
    | .called c _ => some c
    | _ => none

/-- The lines that were taken. -/
def lines (h : History Call) : List Value :=
  h.filterMap fun
    | .wrote line (.ok _) => some line
    | _ => none

/-- The records that were logged. -/
def records (h : History Call) : List LogRecord :=
  h.filterMap fun
    | .logged r => some r
    | _ => none

@[simp] theorem calls_append (h h' : History Call) : calls (h ++ h') = calls h ++ calls h' := List.filterMap_append

@[simp] theorem lines_append (h h' : History Call) : lines (h ++ h') = lines h ++ lines h' := List.filterMap_append

@[simp] theorem records_append (h h' : History Call) : records (h ++ h') = records h ++ records h' := List.filterMap_append

end History

/-- What a program runs in. -/
structure World (Call : Type) where
  /-- The answer to a call after a history. -/
  answer : History Call → Call → Reply
  /-- Whether the sink takes a line after a history. -/
  take : History Call → Value → Taken

namespace Program

variable {Call Call' α β : Type}

/-- One program after another; a failure of the first ends both. -/
def bind : Program Call α → (α → Program Call β) → Program Call β
  | done a, f => f a
  | fail e, _ => fail e
  | call c next, f => call c fun reply => (next reply).bind f
  | write line next, f => write line fun taken => (next taken).bind f
  | log r next, f => log r (next.bind f)

instance : Monad (Program Call) where
  pure := done
  bind := bind

/-- A program, and another one in place of its failure. -/
def handle (rescue : Failure → Program Call α) : Program Call α → Program Call α
  | done a => done a
  | fail e => rescue e
  | call c next => call c fun reply => (next reply).handle rescue
  | write line next => write line fun taken => (next taken).handle rescue
  | log r next => log r (next.handle rescue)

/-- The same program with its calls under other names. -/
def rename (f : Call → Call') : Program Call α → Program Call' α
  | done a => done a
  | fail e => fail e
  | call c next => call (f c) fun reply => (next reply).rename f
  | write line next => write line fun taken => (next taken).rename f
  | log r next => log r (next.rename f)

/-- A program that does nothing but give what was worked out. -/
def ofReply : Except Failure α → Program Call α
  | .ok a => done a
  | .error e => fail e

/-- A program that does nothing but give what was worked out of a value. -/
def ofValue : Except Value.Fault α → Program Call α
  | .ok a => done a
  | .error fault => fail (.value fault)

/-- Calls the library. -/
def ask (c : Call) : Program Call Value := call c ofReply

/-- Writes a line. -/
def print (line : Value) : Program Call Unit := write line ofReply

/-- Writes several lines. -/
def printAll : List Value → Program Call Unit
  | [] => done ()
  | line :: rest => (print line).bind fun _ => printAll rest

/-- Logs a record. -/
def note (r : LogRecord) : Program Call Unit := log r (done ())

/-- A program whose failure is logged before it leaves, unless it is an interrupt. Where the record of the failure cannot be
written, that is the failure of the whole. -/
def reporting (record : Failure → Except Value.Fault LogRecord) (p : Program Call α) : Program Call α :=
  p.handle fun e => if e.isInterrupt then fail e else (ofValue (record e)).bind fun r => log r (fail e)

/-- Runs a program in a world after a history. -/
def run (w : World Call) : Program Call α → History Call → History Call × Except Failure α
  | done a, h => (h, .ok a)
  | fail e, h => (h, .error e)
  | call c next, h => (next (w.answer h c)).run w (h ++ [.called c (w.answer h c)])
  | write line next, h => (next (w.take h line)).run w (h ++ [.wrote line (w.take h line)])
  | log r next, h => next.run w (h ++ [.logged r])

@[simp] theorem pure_bind (a : α) (f : α → Program Call β) : (done a).bind f = f a := rfl

@[simp] theorem bind_done (p : Program Call α) : p.bind done = p := by
  induction p with
  | done a => rfl
  | fail e => rfl
  | call c next ih => simp only [bind, ih]
  | write line next ih => simp only [bind, ih]
  | log r next ih => simp only [bind, ih]

/-- How programs are grouped does not matter. -/
theorem bind_assoc {γ : Type} (p : Program Call α) (f : α → Program Call β) (g : β → Program Call γ) :
    (p.bind f).bind g = p.bind fun a => (f a).bind g := by
  induction p with
  | done a => rfl
  | fail e => rfl
  | call c next ih => simp only [bind, ih]
  | write line next ih => simp only [bind, ih]
  | log r next ih => simp only [bind, ih]

/-- A sequence of programs runs the second after the history of the first, and only after its success. -/
theorem run_bind (w : World Call) (p : Program Call α) (f : α → Program Call β) (h : History Call) :
    (p.bind f).run w h =
      match p.run w h with
      | (h', .ok a) => (f a).run w h'
      | (h', .error e) => (h', .error e) := by
  induction p generalizing h with
  | done a => rfl
  | fail e => rfl
  | call c next ih => simp only [bind, run, ih]
  | write line next ih => simp only [bind, run, ih]
  | log r next ih => simp only [bind, run, ih]

end Program

end AccelProbe
