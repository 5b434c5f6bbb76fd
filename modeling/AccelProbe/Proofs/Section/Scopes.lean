import AccelProbe.Proofs.Backend.TensorFlow
import AccelProbe.Proofs.Basic
import AccelProbe.Proofs.Section.Expansion

/-!
# The scopes of TensorFlow

A tensor is made on the device whose scope is open, so a scope that stayed open would misplace every tensor after it. A history is
`Bracketed` when scopes stand in it one after the other: each is entered, one tensor is made in it, and it is left before anything
else happens. `making` says which questions make a tensor and in which scope. Whatever TensorFlow answers, every answer to a question
keeps to that, and so does everything that asks the backend, the three sections among it, however it goes on after a failure.
-/

namespace AccelProbe

/-- Whether a call makes a tensor. -/
def TensorFlowCall.Makes : TensorFlowCall → Prop
  | .uniform _ | .identity _ | .matmul _ _ => True
  | _ => False

/-- Whether a call neither makes a tensor nor has to do with scopes. -/
def TensorFlowCall.Asks : TensorFlowCall → Prop
  | .enter _ | .exit _ | .uniform _ | .identity _ | .matmul _ _ => False
  | _ => True

namespace TensorFlow

open Program

/-- Whether an event is apart from the scopes: a line, a record, or a call that only asks. -/
def Apart : Event TensorFlowCall → Prop
  | .called c _ => c.Asks
  | _ => True

/-- All that can happen with a call in the scope of a device. -/
inductive Scope (device : Value) (c : TensorFlowCall) : History TensorFlowCall → Prop where
  /-- The scope is not entered. Nothing is called then, and nothing is left. -/
  | refused (e : Failure) : Scope device c [.called (.enter device) (.error e)]
  /-- The call is made in the scope, and the scope is left whatever came of the call. Leaving it may fail. -/
  | used (entered : Value) (reply left : Reply) :
      Scope device c [.called (.enter device) (.ok entered), .called c reply, .called (.exit device) left]

/-- Histories in which the scopes stand one after the other, with one tensor made in each. -/
inductive Bracketed : History TensorFlowCall → Prop where
  /-- Nothing happened. -/
  | nil : Bracketed []
  /-- Something happens where no scope is open. -/
  | apart {event : Event TensorFlowCall} {h : History TensorFlowCall} : Apart event → Bracketed h → Bracketed (event :: h)
  /-- A tensor is made in a scope of its own. -/
  | scope {device : Value} {c : TensorFlowCall} {part h : History TensorFlowCall} :
      c.Makes → Scope device c part → Bracketed h → Bracketed (part ++ h)

/-- The device in whose scope a question makes a tensor, with the call that makes it. The name of the device may have a fault. -/
def making : Query → Option (Except Value.Fault (Value × TensorFlowCall))
  | .randomTensor shape => some (.ok (hostScope, .uniform shape))
  | .toHost tensor => some (.ok (hostScope, .identity tensor))
  | .toAccelerator tensor index => some ((deviceScope index).map fun device => (device, .identity tensor))
  | .matmulTransposed tensor => some (tensor.heldBy.map fun device => (device, .matmul tensor tensor))
  | _ => none

/-- All that an answer to a question can do with scopes. -/
inductive Answering (q : Query) : History TensorFlowCall → Prop where
  /-- The question makes no tensor and is answered without a scope. -/
  | asking {h : History TensorFlowCall} (hq : making q = none) (hh : ∀ event ∈ h, Apart event) : Answering q h
  /-- The device of the scope cannot be named, and nothing is called. -/
  | faulty {fault : Value.Fault} (hq : making q = some (.error fault)) : Answering q []
  /-- The tensor of the question is made in the scope of its device. Nothing but asking comes after that. -/
  | making {device : Value} {c : TensorFlowCall} {part rest : History TensorFlowCall} (hq : making q = some (.ok (device, c)))
      (hpart : Scope device c part) (hrest : ∀ event ∈ rest, Apart event) : Answering q (part ++ rest)

/-! ## Histories with brackets -/

theorem Bracketed.append {h h' : History TensorFlowCall} (hb : Bracketed h) (hb' : Bracketed h') : Bracketed (h ++ h') := by
  induction hb with
  | nil => exact hb'
  | apart he _ ih => exact .apart he ih
  | scope hc hs _ ih =>
    rw [List.append_assoc]
    exact .scope hc hs ih

theorem bracketed_of_apart {h : History TensorFlowCall} (hh : ∀ event ∈ h, Apart event) : Bracketed h := by
  induction h with
  | nil => exact .nil
  | cons event h ih =>
    obtain ⟨he, hrest⟩ := List.forall_mem_cons.mp hh
    exact .apart he (ih hrest)

/-- Only calls that make a tensor are made in a scope. -/
theorem makes_of_making {q : Query} {device : Value} {c : TensorFlowCall} (hq : making q = some (.ok (device, c))) : c.Makes := by
  cases q with
  | randomTensor shape =>
    cases hq
    trivial
  | toHost tensor =>
    cases hq
    trivial
  | toAccelerator tensor index =>
    obtain ⟨_, _, hc⟩ := exists_of_map_eq_ok (Option.some.inj hq)
    cases hc
    trivial
  | matmulTransposed tensor =>
    obtain ⟨_, _, hc⟩ := exists_of_map_eq_ok (Option.some.inj hq)
    cases hc
    trivial
  | _ => cases hq

theorem Answering.bracketed {q : Query} {h : History TensorFlowCall} (ha : Answering q h) : Bracketed h := by
  cases ha with
  | asking _ hh => exact bracketed_of_apart hh
  | faulty => exact .nil
  | making hq hpart hrest => exact .scope (makes_of_making hq) hpart (bracketed_of_apart hrest)

/-! ## The scopes that are open -/

/-- What follows a history after which no scope is open finds no scope open. -/
theorem openScopes_append {h : History TensorFlowCall} (hh : openScopes h = []) (h' : History TensorFlowCall) :
    openScopes (h ++ h') = openScopes h' := by
  unfold openScopes at hh ⊢
  rw [List.foldl_append, hh]

theorem openScopes_apart {event : Event TensorFlowCall} (he : Apart event) : openScopes [event] = [] := by
  cases event with
  | called c reply => cases c <;> first | rfl | exact he.elim
  | _ => rfl

theorem Scope.closed {device : Value} {c : TensorFlowCall} {part : History TensorFlowCall} (hc : c.Makes)
    (hs : Scope device c part) : openScopes part = [] := by
  cases hs with
  | refused e => rfl
  | used entered reply left => cases c <;> first | rfl | exact hc.elim

/-- After a bracketed history no scope is open. -/
theorem Bracketed.closed {h : History TensorFlowCall} (hb : Bracketed h) : openScopes h = [] := by
  induction hb with
  | nil => rfl
  | @apart event h he _ ih => exact (openScopes_append (openScopes_apart he) h).trans ih
  | @scope _ _ part h hc hs _ ih => exact (openScopes_append (hs.closed hc) h).trans ih

/-- Whether an event belongs in the scope of a device: it makes a tensor there, or it leaves the scope. -/
def Inside (device : Value) : Event TensorFlowCall → Prop
  | .called (.exit other) _ => other = device
  | .called c _ => c.Makes
  | _ => False

/-- Whether an event belongs where no scope is open: it enters one, or it is apart from them. -/
def Outside : Event TensorFlowCall → Prop
  | .called (.enter _) _ => True
  | event => Apart event

/-- Whether an event stands where it belongs after a history: exactly its scope is open, or none. -/
def Placed (before : History TensorFlowCall) (event : Event TensorFlowCall) : Prop :=
  (Outside event ∧ openScopes before = []) ∨ ∃ device, Inside device event ∧ openScopes before = [device]

theorem Apart.outside {event : Event TensorFlowCall} (he : Apart event) : Outside event := by
  cases event with
  | called c reply => cases c <;> trivial
  | _ => exact he

theorem Placed.append {before : History TensorFlowCall} {event : Event TensorFlowCall} (hp : Placed before event)
    {first : History TensorFlowCall} (hf : openScopes first = []) : Placed (first ++ before) event := by
  unfold Placed at hp ⊢
  rw [openScopes_append hf]
  exact hp

theorem Scope.placed {device : Value} {c : TensorFlowCall} (hc : c.Makes) {before after : History TensorFlowCall}
    {event : Event TensorFlowCall} (hs : Scope device c (before ++ event :: after)) : Placed before event := by
  generalize hw : before ++ event :: after = part at hs
  cases hs with
  | refused e =>
    obtain ⟨rfl, rfl, -⟩ := History.split_singleton hw.symm
    exact Or.inl ⟨trivial, rfl⟩
  | used entered reply left =>
    match before, hw with
    | [], hw =>
      cases hw
      exact Or.inl ⟨trivial, rfl⟩
    | [_], hw =>
      cases hw
      have hin : Inside device (.called c reply) := by
        cases c <;> trivial
      exact Or.inr ⟨device, hin, rfl⟩
    | [_, _], hw =>
      cases hw
      have hopen : openScopes [.called (.enter device) (.ok entered), .called c reply] = [device] := by
        cases c <;> first | rfl | exact hc.elim
      exact Or.inr ⟨device, rfl, hopen⟩
    | _ :: _ :: _ :: _, hw => simp at hw

/-- In a bracketed history every event stands where it belongs. -/
theorem Bracketed.placed {before after : History TensorFlowCall} {event : Event TensorFlowCall}
    (hb : Bracketed (before ++ event :: after)) : Placed before event := by
  generalize hw : before ++ event :: after = h at hb
  induction hb generalizing before with
  | nil => exact absurd hw (by simp)
  | @apart first h he _ ih =>
    cases before with
    | nil =>
      cases hw
      exact Or.inl ⟨he.outside, rfl⟩
    | cons other before =>
      obtain ⟨rfl, rfl⟩ := List.cons.inj hw
      exact (ih rfl).append (openScopes_apart he)
  | @scope device c part h hc hs _ ih =>
    rcases History.split_append hw.symm with ⟨more, rfl, rfl⟩ | ⟨more, rfl, rfl⟩
    · exact (ih rfl).append (hs.closed hc)
    · exact hs.placed hc

/-! ## What the backend does -/

/-- A call in the scope of a device does what can happen with it there. -/
theorem scope_of_trace {device : Value} {c : TensorFlowCall} {h : History TensorFlowCall} {r : Reply}
    (ht : (within device (ask c)).Trace h r) : Scope device c h := by
  rcases trace_within_ask ht with ⟨e, rfl, -⟩ | ⟨entered, reply, ⟨e, rfl, -⟩ | ⟨left, rfl, -⟩⟩
  · exact .refused e
  · exact .used entered reply (.error e)
  · exact .used entered reply (.ok left)

/-- A question that makes no tensor is answered by asking alone. -/
theorem every_apart {version : Value} {q : Query} (hq : making q = none) : (perform version q).Every Apart := by
  have hask : ∀ c : TensorFlowCall, c.Asks → (ask c).Every Apart := fun c hc => every_ask fun _ => hc
  have hcount : countDevices.Every Apart := every_countDevices fun _ => trivial
  cases q with
  | version => exact trivial
  | isAvailable => exact hcount.bind fun _ => trivial
  | deviceCount => exact hcount.bind fun _ => trivial
  | statistics tensor =>
    have hstatistic : ∀ c : TensorFlowCall, c.Asks → (statistic c).Every Apart := fun c hc => every_statistic fun _ => hc
    exact (hstatistic (.mean tensor) trivial).bind fun _ => (hstatistic (.max tensor) trivial).bind fun _ =>
      (hstatistic (.min tensor) trivial).bind fun _ => trivial
  | formatTensor tensor => exact every_ofValue _
  | buildInfo => exact (hask .builtWithCuda trivial).bind fun _ => (hask .builtWithGpuSupport trivial).bind fun _ => trivial
  | deviceNames =>
    have hnames : ∀ devices, (namesOf devices).Every Apart := every_namesOf fun _ _ => trivial
    exact (hask .listDevices trivial).bind fun _ => (every_ofValue _).bind fun _ => (hnames _).bind fun _ => trivial
  | _ => cases hq

/-- A tensor that is handed on is only asked about after it was made. -/
theorem answering_of_bind {q : Query} {device : Value} {c : TensorFlowCall} (hq : making q = some (.ok (device, c)))
    {f : Value → Program TensorFlowCall Value} (hf : ∀ v, (f v).Every Apart) {h : History TensorFlowCall} {r : Reply}
    (ht : ((within device (ask c)).bind f).Trace h r) : Answering q h := by
  rcases trace_bind ht with ⟨v, part, rest, rfl, hpart, hrest⟩ | ⟨e, he, -⟩
  · exact .making hq (scope_of_trace hpart) ((hf v).trace hrest)
  · have hall : Answering q (h ++ []) := .making hq (scope_of_trace he) nofun
    rwa [List.append_nil] at hall

/-- Every question is answered in its scope, whatever TensorFlow answers. -/
theorem answering_of_trace {version : Value} {q : Query} {h : History TensorFlowCall} {r : Reply}
    (ht : (perform version q).Trace h r) : Answering q h := by
  -- a question that ends with the tensor it made has nothing to ask about it
  have halone : ∀ {device : Value} {c : TensorFlowCall}, making q = some (.ok (device, c)) → (within device (ask c)).Trace h r →
      Answering q h := fun hq ht => answering_of_bind hq (f := done) (fun _ => trivial) (by rwa [bind_done])
  cases q with
  | randomTensor shape => exact halone rfl ht
  | toHost tensor => exact halone rfl ht
  | toAccelerator tensor index =>
    rcases trace_ofValue_bind ht with ⟨device, hd, hcopy⟩ | ⟨fault, hf, rfl, -⟩
    · have hq : making (.toAccelerator tensor index) = some (.ok (device, .identity tensor)) := by rw [making, hd]; rfl
      exact answering_of_bind hq (every_placed (fun _ _ => trivial) index) hcopy
    · exact .faulty (by rw [making, hf]; rfl)
  | matmulTransposed tensor =>
    rcases trace_ofValue_bind ht with ⟨device, hd, hproduct⟩ | ⟨fault, hf, rfl, -⟩
    · exact halone (by rw [making, hd]; rfl) hproduct
    · exact .faulty (by rw [making, hf]; rfl)
  | _ => exact .asking rfl ((every_apart rfl).trace ht)

/-! ## Everything that asks the backend -/

/-- How a history uses scopes, where `course` is what the backend was asked in it. -/
structure Scoped (course : History Query) (h : History TensorFlowCall) : Prop where
  /-- The scopes stand one after the other, with one tensor made in each. -/
  bracketed : Bracketed h
  /-- No scope is left open. -/
  closed : openScopes h = []
  /-- A tensor is made, and a scope left, where exactly that scope is open, and everything else happens where none is. -/
  placed : ∀ before event after, h = before ++ event :: after → Placed before event
  /-- Every call belongs to the answer to a question, which makes its tensor in the scope that is meant for it. -/
  answering : ∀ before c reply after, h = before ++ .called c reply :: after →
    ∃ q answer first part part' rest, .called q answer ∈ course ∧ before = first ++ part ∧ after = part' ++ rest ∧
      Answering q (part ++ .called c reply :: part')

/-- The answers to questions use scopes one after the other. -/
theorem bracketed_of_expands {version : Value} {course : History Query} {h : History TensorFlowCall}
    (he : Expands (perform version) course h) : Bracketed h := by
  induction he with
  | nil => exact .nil
  | call hpart _ ih => exact (answering_of_trace hpart).bracketed.append ih
  | write line taken _ ih => exact .apart trivial ih
  | log record _ ih => exact .apart trivial ih

theorem scoped_of_expands {version : Value} {course : History Query} {h : History TensorFlowCall}
    (he : Expands (perform version) course h) : Scoped course h where
  bracketed := bracketed_of_expands he
  closed := (bracketed_of_expands he).closed
  placed := by
    rintro before event after rfl
    exact (bracketed_of_expands he).placed
  answering := by
    rintro before c reply after rfl
    obtain ⟨first, q, answer, rest, before', part, part', after', rfl, hpart, hbefore, hafter, -⟩ := he.split_called
    exact ⟨q, answer, before', part, part', after', by simp, hbefore, hafter, answering_of_trace hpart⟩

/-- Whether one program uses scopes as the other one, which asks questions, needs them: in every world and after every history. -/
def UsesScopes {α : Type} (asking : Program Query α) (p : Program TensorFlowCall α) : Prop :=
  ∀ (w : World TensorFlowCall) (past : History TensorFlowCall), ∃ course added,
    (p.run w past).1 = past ++ added ∧ asking.Trace course (p.run w past).2 ∧ Scoped course added

/-- What asks questions of TensorFlow uses scopes as the questions need them. -/
theorem usesScopes_expand {α : Type} (version : Value) (p : Program Query α) : UsesScopes p (p.expand (perform version)) := by
  intro w past
  obtain ⟨added, hadded, ht, -⟩ := run_trace w (p.expand (perform version)) past
  obtain ⟨course, hcourse, he⟩ := trace_expand ht
  exact ⟨course, added, hadded, hcourse, scoped_of_expands he⟩

end TensorFlow

namespace Section

open Program TensorFlow

/-- The scopes of TensorFlow are bracketed, whatever it answers to any call, to entering and leaving a scope among them.

An answer to a single question is `Answering` it: the one tensor that it makes is made in the scope that `making` names, which is
left again, and nothing else is done in a scope. Every program that asks questions, in any order and going on as it likes after a
failure, is then `Scoped`, and so are the three sections. -/
theorem scopes_bracketed (version : Value) :
    (∀ (q : Query) (w : World TensorFlowCall) (past : History TensorFlowCall), ∃ added,
      ((perform version q).run w past).1 = past ++ added ∧ Answering q added) ∧
    (∀ (α : Type) (p : Program Query α), UsesScopes p (p.expand (perform version))) ∧
    (∀ shape index, UsesScopes (Diagnostic.run (.direct displayName acceleratorName) shape index)
      (Diagnostic.run (TensorFlow.backend version) shape index)) ∧
    (∀ env, UsesScopes (Environment.run (.direct displayName acceleratorName) env)
      (Environment.run (TensorFlow.backend version) env)) ∧
    ∀ size index, UsesScopes (Compute.run (.direct displayName acceleratorName) size index)
      (Compute.run (TensorFlow.backend version) size index) := by
  refine ⟨?_, ?_, ?_, ?_, ?_⟩
  · intro q w past
    obtain ⟨added, hadded, ht, -⟩ := run_trace w (perform version q) past
    exact ⟨added, hadded, answering_of_trace ht⟩
  · intro α p
    exact usesScopes_expand version p
  · intro shape index
    rw [Diagnostic.run_eq_expand (TensorFlow.backend version)]
    exact usesScopes_expand version _
  · intro env
    rw [Environment.run_eq_expand (TensorFlow.backend version)]
    exact usesScopes_expand version _
  · intro size index
    rw [Compute.run_eq_expand (TensorFlow.backend version)]
    exact usesScopes_expand version _

end Section

end AccelProbe
