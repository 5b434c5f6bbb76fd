import AccelProbe.Proofs.Program.Course
import AccelProbe.Proofs.Program.Every

/-!
# Histories with quiet programs worked out

A backend that answers a question calls its library and does nothing else. A history with such answers worked out has the lines and
the records of the history of the questions, in the same order: a line stands in both at the same place, and a call of the library
belongs to the part of one question.
-/

namespace AccelProbe

variable {Call Call' : Type}

namespace Program

namespace Quiet

variable {α : Type} {p : Program Call α} {h : History Call} {r : Except Failure α}

/-- A trace of a quiet program has no line in it. -/
theorem lines (hp : p.Quiet) (ht : p.Trace h r) : h.lines = [] := by
  refine List.filterMap_eq_nil_iff.mpr ?_
  intro event hmem
  have hc := hp.trace ht event hmem
  cases event with
  | called c reply => rfl
  | _ => exact hc.elim

/-- A trace of a quiet program has no record in it. -/
theorem records (hp : p.Quiet) (ht : p.Trace h r) : h.records = [] := by
  refine List.filterMap_eq_nil_iff.mpr ?_
  intro event hmem
  have hc := hp.trace ht event hmem
  cases event with
  | called c reply => rfl
  | _ => exact hc.elim

end Quiet

namespace Expands

variable {f : Call → Program Call' Value} {h : History Call} {h' : History Call'}

/-- The lines of a history are those of the history with its calls worked out. -/
theorem lines (hf : ∀ c, (f c).Quiet) (he : Expands f h h') : h'.lines = h.lines := by
  induction he with
  | nil => rfl
  | @call c reply part h h' hpart _ ih => rw [History.lines_append, (hf c).lines hpart, ih]; rfl
  | write line taken _ ih =>
    cases taken with
    | ok => exact congrArg (line :: ·) ih
    | error => exact ih
  | log record _ ih => exact ih

/-- The records of a history are those of the history with its calls worked out. -/
theorem records (hf : ∀ c, (f c).Quiet) (he : Expands f h h') : h'.records = h.records := by
  induction he with
  | nil => rfl
  | @call c reply part h h' hpart _ ih => rw [History.records_append, (hf c).records hpart, ih]; rfl
  | write line taken _ ih => exact ih
  | log record _ ih => exact congrArg (record :: ·) ih

/-- What became of a line is the same when the calls are worked out. -/
theorem wrote_mem (he : Expands f h h') {line : Value} {taken : Taken} (hm : .wrote line taken ∈ h) :
    .wrote line taken ∈ h' := by
  induction he with
  | nil => cases hm
  | call _ _ ih => exact List.mem_append_right _ (ih (by simpa using hm))
  | write line' taken' _ ih =>
    rcases List.mem_cons.mp hm with hm | hm
    · exact List.mem_cons.mpr (Or.inl (by cases hm; rfl))
    · exact List.mem_cons_of_mem _ (ih hm)
  | log record _ ih => exact List.mem_cons_of_mem _ (ih (by simpa using hm))

/-- Records alone have nothing to be worked out. -/
theorem logged {records : List LogRecord} (he : Expands f (records.map .logged) h') : h' = records.map .logged := by
  induction records generalizing h' with
  | nil =>
    cases he
    rfl
  | cons record records ih =>
    cases he with
    | log _ he => exact congrArg (.logged record :: ·) (ih he)

/-- The answer to a call has a part of the worked-out history to itself. -/
theorem exists_part (he : Expands f h h') {c : Call} {reply : Reply} (hm : .called c reply ∈ h) :
    ∃ before part after, h' = before ++ (part ++ after) ∧ (f c).Trace part reply := by
  induction he with
  | nil => cases hm
  | @call c' reply' part h h' hpart _ ih =>
    rcases List.mem_cons.mp hm with hm | hm
    · cases hm
      exact ⟨[], part, h', rfl, hpart⟩
    · obtain ⟨before, part', after, rfl, ht⟩ := ih hm
      exact ⟨part ++ before, part', after, (List.append_assoc ..).symm, ht⟩
  | write line taken _ ih =>
    obtain ⟨before, part, after, rfl, ht⟩ := ih (by simpa using hm)
    exact ⟨.wrote line taken :: before, part, after, rfl, ht⟩
  | log record _ ih =>
    obtain ⟨before, part, after, rfl, ht⟩ := ih (by simpa using hm)
    exact ⟨.logged record :: before, part, after, rfl, ht⟩

/-- What stands before and after a line are the worked-out parts of the history before and after it. -/
theorem split_wrote (hf : ∀ c, (f c).Quiet) {before after : History Call'} {line : Value} {taken : Taken}
    (he : Expands f h (before ++ .wrote line taken :: after)) :
    ∃ first rest, h = first ++ .wrote line taken :: rest ∧ Expands f first before ∧ Expands f rest after := by
  generalize hw : before ++ .wrote line taken :: after = whole at he
  induction he generalizing before with
  | nil => exact absurd hw (by simp)
  | @call c reply part h h' hpart _ ih =>
    -- a line does not belong to the answer to a call
    have hn : (.wrote line taken : Event Call') ∉ part := fun hm => (hf c).trace hpart _ hm
    obtain ⟨more, rfl, rfl⟩ := History.split_of_notMem hw.symm hn
    obtain ⟨first, rest, rfl, hfirst, hrest⟩ := ih rfl
    exact ⟨.called c reply :: first, rest, rfl, .call hpart hfirst, hrest⟩
  | write line' taken' he ih =>
    cases before with
    | nil =>
      obtain ⟨hl, rfl⟩ := List.cons.inj hw
      cases hl
      exact ⟨[], _, rfl, .nil, he⟩
    | cons event before =>
      obtain ⟨rfl, rfl⟩ := List.cons.inj hw
      obtain ⟨first, rest, rfl, hfirst, hrest⟩ := ih rfl
      exact ⟨.wrote line' taken' :: first, rest, rfl, .write line' taken' hfirst, hrest⟩
  | log record _ ih =>
    cases before with
    | nil => exact absurd (List.cons.inj hw).1 nofun
    | cons event before =>
      obtain ⟨rfl, rfl⟩ := List.cons.inj hw
      obtain ⟨first, rest, rfl, hfirst, hrest⟩ := ih rfl
      exact ⟨.logged record :: first, rest, rfl, .log record hfirst, hrest⟩

/-- A call of the worked-out history belongs to the answer to one call of the history. -/
theorem split_called {before after : History Call'} {c' : Call'} {reply' : Reply}
    (he : Expands f h (before ++ .called c' reply' :: after)) :
    ∃ first c reply rest before' part part' after', h = first ++ .called c reply :: rest ∧
      (f c).Trace (part ++ .called c' reply' :: part') reply ∧ before = before' ++ part ∧ after = part' ++ after' ∧
      Expands f first before' ∧ Expands f rest after' := by
  generalize hw : before ++ .called c' reply' :: after = whole at he
  induction he generalizing before with
  | nil => exact absurd hw (by simp)
  | @call c reply part h h' hpart he ih =>
    rcases History.split_append hw.symm with ⟨more, rfl, rfl⟩ | ⟨more, rfl, rfl⟩
    · obtain ⟨first, c₀, reply₀, rest, before', part₀, part', after', rfl, ht, rfl, rfl, hfirst, hrest⟩ := ih rfl
      exact ⟨.called c reply :: first, c₀, reply₀, rest, part ++ before', part₀, part', after', rfl, ht,
        (List.append_assoc ..).symm, rfl, .call hpart hfirst, hrest⟩
    · exact ⟨[], c, reply, h, [], before, more, h', rfl, hpart, rfl, rfl, .nil, he⟩
  | write line taken _ ih =>
    cases before with
    | nil => exact absurd (List.cons.inj hw).1 nofun
    | cons event before =>
      obtain ⟨rfl, rfl⟩ := List.cons.inj hw
      obtain ⟨first, c₀, reply₀, rest, before', part, part', after', rfl, ht, rfl, rfl, hfirst, hrest⟩ := ih rfl
      exact ⟨.wrote line taken :: first, c₀, reply₀, rest, .wrote line taken :: before', part, part', after', rfl, ht, rfl, rfl,
        .write line taken hfirst, hrest⟩
  | log record _ ih =>
    cases before with
    | nil => exact absurd (List.cons.inj hw).1 nofun
    | cons event before =>
      obtain ⟨rfl, rfl⟩ := List.cons.inj hw
      obtain ⟨first, c₀, reply₀, rest, before', part, part', after', rfl, ht, rfl, rfl, hfirst, hrest⟩ := ih rfl
      exact ⟨.logged record :: first, c₀, reply₀, rest, .logged record :: before', part, part', after', rfl, ht, rfl, rfl,
        .log record hfirst, hrest⟩

end Expands

end Program

end AccelProbe
