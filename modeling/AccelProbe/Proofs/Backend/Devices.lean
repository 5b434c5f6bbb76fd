import AccelProbe.Proofs.Backend.Loading

/-!
# The devices that a library finds

Whether there is a device, how many there are and what they are called are three questions, and the libraries answer them from
different calls: Torch from a call for each, TensorFlow from the one list of its GPUs. A call is settled where it has one answer.
`Finds` says which calls of a library are settled, and how, where it finds devices with some names; the three questions are settled
then, too, whatever else happens between them.
-/

namespace AccelProbe

open Program

variable {Call Call' : Type}

/-- Whether a call has no answer in a world but this one. It may fail, and it need not be made. -/
def World.Settles (w : World Call) (c : Call) (v : Value) : Prop := ∀ h reply, w.answer h c = .ok reply → reply = v

/-- Whether a call has no answer in a history but this one. -/
def History.Settles (h : History Call) (c : Call) (v : Value) : Prop := ∀ reply, .called c (.ok reply) ∈ h → reply = v

/-- What a world settles is settled in its histories, also in those of a library that has other names for its calls. -/
theorem World.Settles.history {w : World Call'} {f : Call → Call'} {c : Call} {v : Value} (hs : w.Settles (f c) v)
    {h : History Call} (hy : ∀ event ∈ h.map (Event.rename f), w.Yields event) : h.Settles c v := by
  intro reply hm
  obtain ⟨past, hpast⟩ := hy _ (List.mem_map.mpr ⟨_, hm, rfl⟩)
  exact hs past reply hpast.symm

namespace History.Settles

variable {α : Type} {event : Event Call} {h : History Call} {c : Call} {v : Value}

/-- What is settled stays settled in what comes after an event. -/
theorem tail (hs : History.Settles (event :: h) c v) : h.Settles c v := fun reply hm => hs reply (List.mem_cons_of_mem _ hm)

/-- The answer to a call that is settled. -/
theorem of_ask {found : Value} (hs : h.Settles c v) (ht : (ask c).Trace h (.ok found)) : found = v :=
  hs found (by simp [trace_ask_iff.mp ht])

/-- A program that begins with a call that is settled, and that has a result, goes on with its answer. -/
theorem of_ask_bind {f : Value → Program Call α} {a : α} (hs : h.Settles c v) (ht : ((ask c).bind f).Trace h (.ok a)) :
    ∃ rest, h = .called c (.ok v) :: rest ∧ (f v).Trace rest (.ok a) := by
  rcases trace_ask_bind ht with ⟨reply, rest, rfl, hrest⟩ | ⟨_, _, hfailed⟩
  · obtain rfl := hs reply List.mem_cons_self
    exact ⟨rest, rfl, hrest⟩
  · cases hfailed

end History.Settles

namespace Torch

variable {h : History TorchCall} {names found : List Value}

/-- The names that Torch gives for one index after the other. -/
theorem names_of_trace_namesFrom {index : Int}
    (hn : ∀ (i : Nat) name, names[i]? = some name → h.Settles (.deviceName (index + i)) name)
    (ht : (namesFrom index names.length).Trace h (.ok found)) : found = names := by
  induction names generalizing index h found with
  | nil => exact Except.ok.inj (trace_done_iff.mp ht).2
  | cons name names ih =>
    have hfirst : h.Settles (.deviceName index) name := by simpa using hn 0 name rfl
    obtain ⟨rest, rfl, hrest⟩ := hfirst.of_ask_bind ht
    obtain ⟨others, hothers, rfl⟩ := trace_bind_done_ok hrest
    have hnext : ∀ (i : Nat) other, names[i]? = some other → History.Settles rest (.deviceName (index + 1 + i)) other := by
      intro i other hother
      rw [show index + 1 + (i : Int) = index + ((i + 1 : Nat) : Int) by omega]
      exact (hn (i + 1) other hother).tail
    rw [ih hnext hothers]

/-- The names of the devices, where there are as many as are counted. -/
theorem named_of_trace (version : Value) {v : Value} (hc : h.Settles .deviceCount (.int names.length))
    (hn : ∀ (i : Nat) name, names[i]? = some name → h.Settles (.deviceName i) name)
    (ht : (perform version .deviceNames).Trace h (.ok v)) : v = .list names := by
  obtain ⟨rest, rfl, hrest⟩ := hc.of_ask_bind ht
  change ((namesFrom 0 names.length).bind fun found => done (Value.list found)).Trace rest _ at hrest
  obtain ⟨found, hnames, rfl⟩ := trace_bind_done_ok hrest
  refine congrArg Value.list (names_of_trace_namesFrom ?_ hnames)
  intro i name hname
  rw [Int.zero_add]
  exact (hn i name hname).tail

end Torch

namespace TensorFlow

/-- A GPU as TensorFlow lists it: the name that it has there, and what TensorFlow tells of it. -/
structure Gpu where
  /-- The name in the list. -/
  ownName : Value
  /-- The details. -/
  details : List (String × Value)

namespace Gpu

/-- The device in the list. -/
def device (gpu : Gpu) : Value := .device gpu.ownName

/-- What the GPU is called: what its details call it, or else its own name. -/
def name (gpu : Gpu) : Value := (gpu.details.lookup "device_name").getD gpu.ownName

end Gpu

variable {h : History TensorFlowCall} {gpus : List Gpu} {found : List Value}

/-- The number of the GPUs in the list. -/
theorem count_of_trace_countDevices {count : Nat} (hl : h.Settles .listDevices (.list (gpus.map Gpu.device)))
    (ht : countDevices.Trace h (.ok count)) : count = gpus.length := by
  obtain ⟨rest, rfl, hrest⟩ := hl.of_ask_bind ht
  have hcount : count = (gpus.map Gpu.device).length := Except.ok.inj (trace_ofValue_iff.mp hrest).2
  rw [hcount, List.length_map]

/-- The names that TensorFlow gives for the GPUs of a list. -/
theorem names_of_trace_namesOf (hd : ∀ gpu ∈ gpus, h.Settles (.deviceDetails gpu.device) (.dictionary gpu.details))
    (ht : (namesOf (gpus.map Gpu.device)).Trace h (.ok found)) : found = gpus.map Gpu.name := by
  induction gpus generalizing h found with
  | nil => exact Except.ok.inj (trace_done_iff.mp ht).2
  | cons gpu gpus ih =>
    obtain ⟨hfirst, hnext⟩ := List.forall_mem_cons.mp hd
    obtain ⟨rest, rfl, hrest⟩ := hfirst.of_ask_bind ht
    change ((namesOf (gpus.map Gpu.device)).bind fun others => done (gpu.name :: others)).Trace rest _ at hrest
    obtain ⟨others, hothers, rfl⟩ := trace_bind_done_ok hrest
    rw [ih (fun other hm => (hnext other hm).tail) hothers, List.map_cons]

/-- The names of the GPUs of the list. -/
theorem named_of_trace (version : Value) {v : Value} (hl : h.Settles .listDevices (.list (gpus.map Gpu.device)))
    (hd : ∀ gpu ∈ gpus, h.Settles (.deviceDetails gpu.device) (.dictionary gpu.details))
    (ht : (perform version .deviceNames).Trace h (.ok v)) : v = .list (gpus.map Gpu.name) := by
  obtain ⟨rest, rfl, hrest⟩ := hl.of_ask_bind ht
  change ((namesOf (gpus.map Gpu.device)).bind fun names => done (Value.list names)).Trace rest _ at hrest
  obtain ⟨found, hnames, rfl⟩ := trace_bind_done_ok hrest
  exact congrArg Value.list (names_of_trace_namesOf (fun gpu hm => (hd gpu hm).tail) hnames)

end TensorFlow

/-- Whether a library finds devices with these names in a world: its calls for devices are settled accordingly. -/
inductive Finds (w : World LibraryCall) : Library → List Value → Prop where
  /-- Torch counts the devices, and has the name of each under its index. -/
  | torch {names : List Value} (available : w.Settles (.torch .isAvailable) (.bool (decide (0 < names.length))))
      (counted : w.Settles (.torch .deviceCount) (.int names.length))
      (named : ∀ (i : Nat) name, names[i]? = some name → w.Settles (.torch (.deviceName i)) name) : Finds w .torch names
  /-- TensorFlow lists the GPUs, and has details of each. -/
  | tensorflow {gpus : List TensorFlow.Gpu} (listed : w.Settles (.tensorflow .listDevices) (.list (gpus.map TensorFlow.Gpu.device)))
      (detailed : ∀ gpu ∈ gpus, w.Settles (.tensorflow (.deviceDetails gpu.device)) (.dictionary gpu.details)) :
      Finds w .tensorflow (gpus.map TensorFlow.Gpu.name)

/-- Whether the questions for devices are settled in a history: there are those with these names. -/
structure History.Finds (h : History Query) (names : List Value) : Prop where
  /-- There is an accelerator where there is a device. -/
  available : h.Settles .isAvailable (.bool (decide (0 < names.length)))
  /-- The devices are counted. -/
  counted : h.Settles .deviceCount (.int names.length)
  /-- They are called by their names, in order. -/
  named : h.Settles .deviceNames (.list names)

/-- The answer to a question came of a part of the history in which the library was asked, under its own names of the calls. -/
theorem exists_part_of_rename {w : World Call'} {b : Backend Call} {f : Call → Call'} {h : History Query} {h' : History Call'}
    (he : Expands (b.rename f).perform h h') (hy : ∀ event ∈ h', w.Yields event) {q : Query} {reply : Reply}
    (hm : .called q reply ∈ h) :
    ∃ part, (b.perform q).Trace part reply ∧ ∀ event ∈ part.map (Event.rename f), w.Yields event := by
  obtain ⟨before, _, after, rfl, hrenamed⟩ := he.exists_part hm
  obtain ⟨part, ht, rfl⟩ := trace_rename hrenamed
  exact ⟨part, ht, fun event hevent => hy event (by simp [hevent])⟩

/-- Where a library finds devices, the questions to its backend are settled. -/
theorem Finds.history {w : World LibraryCall} {l : Library} {names : List Value} (hf : Finds w l names) {version : Value}
    {h : History Query} {h' : History LibraryCall} (he : Expands (Backend.loaded version l).perform h h')
    (hy : ∀ event ∈ h', w.Yields event) : h.Finds names := by
  cases hf with
  | torch available counted named =>
    refine ⟨fun reply hm => ?_, fun reply hm => ?_, fun reply hm => ?_⟩
    · obtain ⟨part, ht, hyield⟩ := exists_part_of_rename he hy hm
      exact (available.history hyield).of_ask ht
    · obtain ⟨part, ht, hyield⟩ := exists_part_of_rename he hy hm
      exact (counted.history hyield).of_ask ht
    · obtain ⟨part, ht, hyield⟩ := exists_part_of_rename he hy hm
      exact Torch.named_of_trace version (counted.history hyield) (fun i name hname => (named i name hname).history hyield) ht
  | @tensorflow gpus listed detailed =>
    refine ⟨fun reply hm => ?_, fun reply hm => ?_, fun reply hm => ?_⟩
    · obtain ⟨part, ht, hyield⟩ := exists_part_of_rename he hy hm
      obtain ⟨count, hcount, rfl⟩ := trace_bind_done_ok ht
      rw [TensorFlow.count_of_trace_countDevices (listed.history hyield) hcount, List.length_map]
    · obtain ⟨part, ht, hyield⟩ := exists_part_of_rename he hy hm
      obtain ⟨count, hcount, rfl⟩ := trace_bind_done_ok ht
      rw [TensorFlow.count_of_trace_countDevices (listed.history hyield) hcount, List.length_map]
    · obtain ⟨part, ht, hyield⟩ := exists_part_of_rename he hy hm
      exact TensorFlow.named_of_trace version (listed.history hyield) (fun gpu hm => (detailed gpu hm).history hyield) ht

end AccelProbe
