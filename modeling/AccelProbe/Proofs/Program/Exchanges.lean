import AccelProbe.Proofs.Program.Course

/-!
# Exchanges and attempts

A history has two sides: the exchanges, which are its calls with their answers, and the attempts, which are its lines with what
came of them. A plan is a list of calls with the answers that lead from one to the next; `Follows` says that exchanges keep to a
plan until a call fails.
-/

namespace AccelProbe

namespace History

variable {Call : Type}

/-- The calls that were made, each with its answer. -/
def exchanges (h : History Call) : List (Call × Reply) :=
  h.filterMap fun
    | .called c reply => some (c, reply)
    | _ => none

/-- The lines that were written, each with what came of it. -/
def attempts (h : History Call) : List (Value × Taken) :=
  h.filterMap fun
    | .wrote line taken => some (line, taken)
    | _ => none

@[simp] theorem exchanges_append (h h' : History Call) : exchanges (h ++ h') = exchanges h ++ exchanges h' :=
  List.filterMap_append

@[simp] theorem attempts_append (h h' : History Call) : attempts (h ++ h') = attempts h ++ attempts h' :=
  List.filterMap_append

@[simp] theorem exchanges_map_logged (records : List LogRecord) :
    exchanges (records.map .logged : History Call) = [] := by
  simp [exchanges]

@[simp] theorem attempts_map_logged (records : List LogRecord) :
    attempts (records.map .logged : History Call) = [] := by
  simp [attempts]

@[simp] theorem exchanges_ofLines (lines : List Value) : exchanges (.ofLines lines : History Call) = [] := by
  simp [exchanges, ofLines]

/-- An exchange is an event of the history. -/
theorem mem_exchanges_iff {c : Call} {reply : Reply} {h : History Call} :
    (c, reply) ∈ h.exchanges ↔ .called c reply ∈ h := by
  unfold exchanges
  rw [List.mem_filterMap]
  constructor
  · rintro ⟨event, hm, he⟩
    cases event with
    | called c' reply' =>
      cases he
      exact hm
    | _ => cases he
  · exact fun hm => ⟨_, hm, rfl⟩

/-- An attempt is an event of the history. -/
theorem mem_attempts_iff {line : Value} {taken : Taken} {h : History Call} :
    (line, taken) ∈ h.attempts ↔ .wrote line taken ∈ h := by
  unfold attempts
  rw [List.mem_filterMap]
  constructor
  · rintro ⟨event, hm, he⟩
    cases event with
    | wrote line' taken' =>
      cases he
      exact hm
    | _ => cases he
  · exact fun hm => ⟨_, hm, rfl⟩

/-- A line that was taken was an attempt. -/
theorem lines_eq_nil_of_attempts {h : History Call} (hn : h.attempts = []) : h.lines = [] := by
  rw [List.eq_nil_iff_forall_not_mem]
  intro line hm
  obtain ⟨event, he, hline⟩ := List.mem_filterMap.mp hm
  have hwrote : ∃ taken, event = .wrote line taken := by
    cases event with
    | wrote line' taken =>
      cases taken with
      | ok _ =>
        cases hline
        exact ⟨_, rfl⟩
      | error e => cases hline
    | _ => cases hline
  obtain ⟨taken, rfl⟩ := hwrote
  have hattempt : (line, taken) ∈ h.attempts := mem_attempts_iff.mpr he
  rw [hn] at hattempt
  exact absurd hattempt (List.not_mem_nil)

/-- The history of calls with these answers. -/
def ofAnswers (plan : List (Call × Value)) : History Call := plan.map fun step => .called step.1 (.ok step.2)

@[simp] theorem attempts_ofAnswers (plan : List (Call × Value)) : attempts (ofAnswers plan) = [] := by
  simp [attempts, ofAnswers]

@[simp] theorem exchanges_ofAnswers (plan : List (Call × Value)) :
    exchanges (ofAnswers plan) = plan.map fun step => (step.1, .ok step.2) := by
  induction plan with
  | nil => rfl
  | cons step plan ih => exact congrArg (_ :: ·) ih

end History

variable {Call : Type}

/-- Whether exchanges keep to a plan: its calls in their order, each with the answer of the plan, and none after one that failed. -/
def Follows : List (Call × Value) → List (Call × Reply) → Prop
  | _, [] => True
  | [], _ :: _ => False
  | (c, v) :: plan, (c', .ok v') :: made => c' = c ∧ v' = v ∧ Follows plan made
  | (c, _) :: _, (c', .error _) :: made => c' = c ∧ made = []

namespace Follows

/-- Exchanges that keep to the beginning of a plan keep to the plan. -/
theorem extend {plan full : List (Call × Value)} {made : List (Call × Reply)} (hf : Follows plan made)
    (hp : plan <+: full) : Follows full made := by
  induction plan generalizing full made with
  | nil =>
    cases made with
    | nil => cases full <;> trivial
    | cons exchange made => exact absurd hf id
  | cons step plan ih =>
    obtain ⟨rest, rfl⟩ := hp
    cases made with
    | nil => trivial
    | cons exchange made =>
      obtain ⟨c, reply⟩ := exchange
      cases reply with
      | ok v =>
        obtain ⟨hcall, hanswer, hrest⟩ := hf
        exact ⟨hcall, hanswer, ih hrest (List.prefix_append ..)⟩
      | error e => exact hf

/-- The exchanges of a whole plan keep to it. -/
theorem whole (plan : List (Call × Value)) : Follows plan (plan.map fun step => (step.1, .ok step.2)) := by
  induction plan with
  | nil => trivial
  | cons step plan ih => exact ⟨rfl, rfl, ih⟩

/-- A call that was made is one of the plan, and its answer is that of the plan, if it has one. -/
theorem exists_planned {plan : List (Call × Value)} {made : List (Call × Reply)} (hf : Follows plan made) {c : Call}
    {reply : Reply} (hm : (c, reply) ∈ made) : ∃ v, (c, v) ∈ plan ∧ ∀ answer, reply = .ok answer → answer = v := by
  induction plan generalizing made with
  | nil =>
    cases made with
    | nil => exact absurd hm List.not_mem_nil
    | cons exchange made => exact absurd hf id
  | cons step plan ih =>
    obtain ⟨planned, v⟩ := step
    cases made with
    | nil => exact absurd hm List.not_mem_nil
    | cons exchange made =>
      obtain ⟨first, answered⟩ := exchange
      cases answered with
      | ok v₁ =>
        obtain ⟨rfl, rfl, hrest⟩ := hf
        rcases List.mem_cons.mp hm with hx | hm
        · cases hx
          exact ⟨v₁, List.mem_cons_self, fun _ ha => (Except.ok.inj ha).symm⟩
        · obtain ⟨v, hplanned, ha⟩ := ih hrest hm
          exact ⟨v, List.mem_cons_of_mem _ hplanned, ha⟩
      | error e =>
        obtain ⟨rfl, rfl⟩ := hf
        cases List.mem_singleton.mp hm
        exact ⟨v, List.mem_cons_self, nofun⟩

/-- A plan that is cut at a call is kept to. -/
theorem of_cut {plan : List (Call × Value)} {h : History Call} {e : Failure} (hc : Cut (.ofAnswers plan) h e) :
    Follows plan h.exchanges := by
  induction plan generalizing h with
  | nil =>
    obtain ⟨event, hm, -⟩ := hc.exists_mem
    exact absurd hm (List.not_mem_nil)
  | cons step plan ih =>
    obtain ⟨before, event, rest, hs, hcourse, rfl⟩ := hc
    cases before with
    | nil =>
      obtain ⟨rfl, -⟩ := List.cons.inj hcourse
      exact ⟨rfl, rfl⟩
    | cons first before =>
      obtain ⟨rfl, hplan⟩ := List.cons.inj hcourse
      exact ⟨rfl, rfl, ih ⟨before, event, rest, hs, hplan, rfl⟩⟩

end Follows

namespace Cut

/-- Calls that were cut leave no attempt to write. -/
theorem attempts_ofAnswers {plan : List (Call × Value)} {h : History Call} {e : Failure} (hc : Cut (.ofAnswers plan) h e) :
    h.attempts = [] := by
  rw [List.eq_nil_iff_forall_not_mem]
  rintro ⟨line, taken⟩ hm
  obtain ⟨planned, hp⟩ := hc.exists_wrote (History.mem_attempts_iff.mp hm)
  have hattempt := History.mem_attempts_iff.mpr hp
  rw [History.attempts_ofAnswers] at hattempt
  exact absurd hattempt (List.not_mem_nil)

/-- Lines that were cut are taken up to the one that was refused. -/
theorem exists_refused {lines : List Value} {h : History Call} {e : Failure} (hc : Cut (.ofLines lines) h e) :
    ∃ front line rest, lines = front ++ line :: rest ∧ h = History.ofLines front ++ [.wrote line (.error e)] := by
  obtain ⟨before, event, after, -, hcourse, rfl⟩ := hc
  obtain ⟨front, back, rfl, rfl, hback⟩ := List.map_eq_append_iff.mp hcourse
  obtain ⟨line, rest, rfl, rfl, -⟩ := List.map_eq_cons_iff.mp hback
  exact ⟨front, line, rest, rfl, rfl⟩

/-- Lines that were cut leave no exchange. -/
theorem exchanges_ofLines {lines : List Value} {h : History Call} {e : Failure} (hc : Cut (.ofLines lines) h e) :
    h.exchanges = [] := by
  obtain ⟨front, line, rest, -, rfl⟩ := hc.exists_refused
  rw [History.exchanges_append, History.exchanges_ofLines]
  rfl

end Cut

end AccelProbe
