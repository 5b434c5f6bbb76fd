import AccelProbe.Backend.TensorFlow
import AccelProbe.Proofs.Program.Quiet

/-!
# What the backend of TensorFlow does

Every question becomes calls to TensorFlow and nothing else. The name of a device is parsed for one question only, that for a tensor
on the accelerator, and `Move` names everything that can come of it: the tensor is handed on only where it was copied in the scope
of its device, the scope was left again, and the specification of the place where the copy lies is that of the device.
-/

namespace AccelProbe

/-- Whether a call stands in questions of every kind: TensorFlow is not loaded again, and the name of a device is parsed for one kind
of question only. -/
def TensorFlowCall.Usual : TensorFlowCall → Prop
  | .load _ | .parseDevice _ => False
  | _ => True

/-- Whether a failure is an error like any other: it is no interrupt, and it has a wording. -/
def Failure.Ordinary (e : Failure) : Prop := e.isInterrupt = false ∧ ∃ message, e.message = .ok message

namespace TensorFlow

open Program

/-! ## The calls of every question -/

section

variable {α : Type} {P : Event TensorFlowCall → Prop}

theorem every_closing {last : Program TensorFlowCall Value} {p : Program TensorFlowCall α} (hlast : last.Every P)
    (hp : p.Every P) : (closing last p).Every P := by
  induction p with
  | done a => exact hlast.bind fun _ => trivial
  | fail e => exact hlast.bind fun _ => trivial
  | call c next ih => exact fun reply => ⟨(hp reply).1, ih reply (hp reply).2⟩
  | write line next ih => exact fun taken => ⟨(hp taken).1, ih taken (hp taken).2⟩
  | log record next ih => exact ⟨hp.1, ih hp.2⟩

theorem every_within {p : Program TensorFlowCall α} {device : Value} (henter : ∀ reply, P (.called (.enter device) reply))
    (hexit : ∀ reply, P (.called (.exit device) reply)) (hp : p.Every P) : (within device p).Every P :=
  (every_ask henter).bind fun _ => every_closing (every_ask hexit) hp

theorem every_statistic {c : TensorFlowCall} (hc : ∀ reply, P (.called c reply)) : (statistic c).Every P :=
  (every_ask hc).bind fun _ => (every_ofValue _).bind fun _ => trivial

theorem every_namesOf (hdetails : ∀ device reply, P (.called (.deviceDetails device) reply)) (devices : List Value) :
    (namesOf devices).Every P := by
  induction devices with
  | nil => exact trivial
  | cons device rest ih =>
    exact (every_ask (hdetails device)).bind fun _ => (every_ofValue _).bind fun _ => ih.bind fun _ => trivial

theorem every_countDevices (hlist : ∀ reply, P (.called .listDevices reply)) : countDevices.Every P :=
  (every_ask hlist).bind fun _ => every_ofValue _

theorem every_misplaced (place index : Value) : (misplaced place index).Every P :=
  (every_ofValue _).bind fun _ => (every_ofValue _).bind fun _ => trivial

theorem every_placed (hparse : ∀ place reply, P (.called (.parseDevice place) reply)) (index tensor : Value) :
    (placed index tensor).Every P := by
  refine (every_ofValue _).bind fun place => (every_ask (hparse place)).bind fun _ => (every_ofValue _).bind fun right => ?_
  cases right with
  | true => exact trivial
  | false => exact every_misplaced _ _

/-- What holds of every usual call holds of every event of a question, if it holds of the parsing of a device, too, or the question
is not the one for a tensor on the accelerator. -/
theorem every_perform (hP : ∀ c reply, c.Usual → P (.called c reply)) (version : Value) (q : Query)
    (hq : (∀ place reply, P (.called (.parseDevice place) reply)) ∨ ∀ tensor index, q ≠ .toAccelerator tensor index) :
    (perform version q).Every P := by
  have hask : ∀ c : TensorFlowCall, c.Usual → ∀ reply, P (.called c reply) := fun c hc reply => hP c reply hc
  have hcopy : ∀ (device : Value) (c : TensorFlowCall), c.Usual → (within device (ask c)).Every P := fun device c hc =>
    every_within (hask (.enter device) trivial) (hask (.exit device) trivial) (every_ask (hask c hc))
  have hcount : countDevices.Every P := every_countDevices (hask .listDevices trivial)
  cases q with
  | version => exact trivial
  | isAvailable => exact hcount.bind fun _ => trivial
  | deviceCount => exact hcount.bind fun _ => trivial
  | randomTensor shape => exact hcopy _ (.uniform shape) trivial
  | toAccelerator tensor index =>
    rcases hq with hparse | hq
    case inr => exact absurd rfl (hq tensor index)
    exact (every_ofValue _).bind fun _ => (hcopy _ (.identity tensor) trivial).bind fun copy => every_placed hparse index copy
  | matmulTransposed tensor => exact (every_ofValue _).bind fun _ => hcopy _ (.matmul tensor tensor) trivial
  | toHost tensor => exact hcopy _ (.identity tensor) trivial
  | statistics tensor =>
    exact (every_statistic (hask (.mean tensor) trivial)).bind fun _ => (every_statistic (hask (.max tensor) trivial)).bind fun _ =>
      (every_statistic (hask (.min tensor) trivial)).bind fun _ => trivial
  | formatTensor tensor => exact every_ofValue _
  | buildInfo =>
    exact (every_ask (hask .builtWithCuda trivial)).bind fun _ => (every_ask (hask .builtWithGpuSupport trivial)).bind fun _ =>
      trivial
  | deviceNames =>
    have hnames : ∀ devices, (namesOf devices).Every P := every_namesOf fun device => hask (.deviceDetails device) trivial
    exact (every_ask (hask .listDevices trivial)).bind fun _ => (every_ofValue _).bind fun _ => (hnames _).bind fun _ => trivial

end

/-- TensorFlow is asked every question by calls alone. -/
theorem quiet_perform (version : Value) (q : Query) : (perform version q).Quiet :=
  every_perform (fun _ _ _ => trivial) version q (Or.inl fun _ _ => trivial)

/-- The name of a device is parsed for no question but the one for a tensor on the accelerator. -/
theorem parseDevice_notMem {version : Value} {q : Query} {h : History TensorFlowCall} {reply : Reply}
    (hq : ∀ tensor index, q ≠ .toAccelerator tensor index) (ht : (perform version q).Trace h reply) (place : Value)
    (answer : Reply) : .called (.parseDevice place) answer ∉ h := by
  let P : Event TensorFlowCall → Prop := fun event => event ≠ .called (.parseDevice place) answer
  have hP : ∀ c reply, c.Usual → P (.called c reply) := fun c reply hc heq => by
    cases heq
    exact hc
  exact fun hm => (every_perform hP version q (Or.inr hq)).trace ht _ hm rfl

/-! ## The way of a tensor to the accelerator -/

/-- The scope of the device whose index has this text. -/
def scopeOf (text : String) : Value := .str ("/GPU:" ++ text)

/-- The course of a copy in the scope of a device. -/
def copying (text : String) (entered tensor copy left : Value) : History TensorFlowCall :=
  [.called (.enter (scopeOf text)) (.ok entered), .called (.identity tensor) (.ok copy),
    .called (.exit (scopeOf text)) (.ok left)]

/-- The course of a tensor's way to the accelerator: it is copied in the scope of the device, and the name of the place where the
copy lies is parsed. -/
def transfer (text : String) (entered tensor copy left place specification : Value) : History TensorFlowCall :=
  copying text entered tensor copy left ++ [.called (.parseDevice place) (.ok specification)]

/-- What the comparison of a specification with the device comes to. The copy is handed on where it lies on the device. -/
def verdict (text : String) (index copy place specification : Value) : Reply :=
  match isAt index specification, placeText place with
  | .error fault, _ => .error (.value fault)
  | .ok true, _ => .ok copy
  | .ok false, .error fault => .error (.value fault)
  | .ok false, .ok found => .error (.misplaced found text)

/-- What can come of the question for a tensor on the accelerator. -/
inductive Move (tensor index : Value) : History TensorFlowCall → Reply → Prop where
  /-- The index cannot be written in the name of a scope. -/
  | unscoped {fault : Value.Fault} (hi : index.toText = .error fault) : Move tensor index [] (.error (.value fault))
  /-- The scope is not entered. -/
  | unentered {text : String} (e : Failure) (hi : index.toText = .ok text) :
      Move tensor index [.called (.enter (scopeOf text)) (.error e)] (.error e)
  /-- The tensor is not copied. The scope is left all the same. -/
  | uncopied {text : String} (entered left : Value) (e : Failure) (hi : index.toText = .ok text) :
      Move tensor index
        [.called (.enter (scopeOf text)) (.ok entered), .called (.identity tensor) (.error e),
          .called (.exit (scopeOf text)) (.ok left)]
        (.error e)
  /-- The scope is not left, whatever came of the copy. -/
  | unleft {text : String} (entered : Value) (reply : Reply) (e : Failure) (hi : index.toText = .ok text) :
      Move tensor index
        [.called (.enter (scopeOf text)) (.ok entered), .called (.identity tensor) reply,
          .called (.exit (scopeOf text)) (.error e)]
        (.error e)
  /-- What was made as a copy lies nowhere. -/
  | placeless {text : String} (entered copy left : Value) {fault : Value.Fault} (hi : index.toText = .ok text)
      (hp : copy.heldBy = .error fault) :
      Move tensor index (copying text entered tensor copy left) (.error (.value fault))
  /-- The name of the place is not parsed. -/
  | unparsed {text : String} (entered copy left : Value) {place : Value} (e : Failure) (hi : index.toText = .ok text)
      (hp : copy.heldBy = .ok place) :
      Move tensor index (copying text entered tensor copy left ++ [.called (.parseDevice place) (.error e)]) (.error e)
  /-- The specification of the place is compared with the device. -/
  | compared {text : String} (entered copy left specification : Value) {place : Value} (hi : index.toText = .ok text)
      (hp : copy.heldBy = .ok place) :
      Move tensor index (transfer text entered tensor copy left place specification) (verdict text index copy place specification)

/-- A call in the scope of a device: the scope is not entered, or it is not left after the call, or the reply to the call is that
of the whole. -/
theorem trace_within_ask {device : Value} {c : TensorFlowCall} {h : History TensorFlowCall} {r : Reply}
    (ht : (within device (ask c)).Trace h r) :
    (∃ e, h = [.called (.enter device) (.error e)] ∧ r = .error e) ∨
      ∃ entered reply, (∃ e, h = [.called (.enter device) (.ok entered), .called c reply, .called (.exit device) (.error e)] ∧
          r = .error e) ∨
        ∃ left, h = [.called (.enter device) (.ok entered), .called c reply, .called (.exit device) (.ok left)] ∧ r = reply := by
  rcases trace_ask_bind ht with ⟨entered, rest, rfl, hbody⟩ | he
  case inr => exact Or.inl he
  obtain ⟨reply, rest, rfl, hlast⟩ := trace_call hbody
  refine Or.inr ⟨entered, reply, ?_⟩
  have hexit : ((ask (.exit device)).bind fun _ => ofReply reply).Trace rest r := by
    cases reply with
    | ok v => exact hlast
    | error e => exact hlast
  rcases trace_ask_bind hexit with ⟨left, rest, rfl, hend⟩ | ⟨e, rfl, rfl⟩
  · obtain ⟨rfl, rfl⟩ := trace_ofReply_iff.mp hend
    exact Or.inr ⟨left, rfl, rfl⟩
  · exact Or.inl ⟨e, rfl, rfl⟩

/-- The end of the question for a tensor on the accelerator: the verdict on the place of the copy. -/
theorem trace_verdict {text : String} {index copy place specification : Value} {h : History TensorFlowCall} {r : Reply}
    (hi : index.toText = .ok text)
    (ht : ((ofValue (isAt index specification)).bind fun right =>
      if right then done copy else TensorFlow.misplaced place index).Trace h r) :
    h = [] ∧ r = verdict text index copy place specification := by
  unfold verdict
  rcases trace_ofValue_bind ht with ⟨right, hs, hend⟩ | ⟨fault, hf, rfl, rfl⟩
  case inr => exact ⟨rfl, by rw [hf]⟩
  cases right with
  | true =>
    obtain ⟨rfl, rfl⟩ := trace_done_iff.mp hend
    exact ⟨rfl, by rw [hs]⟩
  | false =>
    simp only [Bool.false_eq_true, if_false, TensorFlow.misplaced, bind_eq, hi] at hend
    rcases trace_ofValue_bind hend with ⟨found, hn, hfail⟩ | ⟨fault, hf, rfl, rfl⟩
    case inr => exact ⟨rfl, by rw [hs, hf]⟩
    obtain ⟨rfl, rfl⟩ := trace_fail_iff.mp hfail
    exact ⟨rfl, by rw [hs, hn]⟩

/-- Nothing but its moves can come of the question for a tensor on the accelerator. -/
theorem trace_toAccelerator {version tensor index : Value} {h : History TensorFlowCall} {r : Reply}
    (ht : (perform version (.toAccelerator tensor index)).Trace h r) : Move tensor index h r := by
  simp only [perform, bind_eq, deviceScope] at ht
  cases hi : index.toText with
  | error fault =>
    simp only [hi, Except.map] at ht
    obtain ⟨rfl, rfl⟩ := trace_fail_iff.mp ht
    exact .unscoped hi
  | ok text =>
    simp only [hi, Except.map, ofValue, pure_bind] at ht
    rcases trace_bind ht with ⟨copy, first, rest, rfl, hcopy, hplaced⟩ | ⟨e, he, rfl⟩
    case inr =>
      rcases trace_within_ask he with ⟨_, rfl, hx⟩ | ⟨entered, reply, ⟨_, rfl, hx⟩ | ⟨left, rfl, hx⟩⟩
      · cases hx
        exact .unentered e hi
      · cases hx
        exact .unleft entered reply e hi
      · subst hx
        exact .uncopied entered left e hi
    rcases trace_within_ask hcopy with ⟨_, _, hx⟩ | ⟨entered, reply, ⟨_, _, hx⟩ | ⟨left, rfl, hx⟩⟩
    · cases hx
    · cases hx
    subst hx
    simp only [TensorFlow.placed, bind_eq] at hplaced
    rcases trace_ofValue_bind hplaced with ⟨place, hp, hparse⟩ | ⟨fault, hf, rfl, rfl⟩
    case inr => exact .placeless entered copy left hi hf
    rcases trace_ask_bind hparse with ⟨specification, _, rfl, hright⟩ | ⟨e, rfl, rfl⟩
    case inr => exact .unparsed entered copy left e hi hp
    obtain ⟨rfl, rfl⟩ := trace_verdict hi hright
    exact .compared entered copy left specification hi hp

/-- The test of a specification looks at its type and its index. -/
theorem isAt_spec (index type found : Value) :
    isAt index (.spec type found) = .ok (type.same deviceType && found.same index) := by
  change (if type.same deviceType then Except.ok (found.same index) else Except.ok false) = _
  cases type.same deviceType <;> rfl

/-- Only the text itself equals the type of a GPU. -/
theorem same_deviceType_iff {type : Value} : type.same deviceType = true ↔ type = deviceType := by
  constructor
  · intro h
    cases type <;> simp_all [Value.same, deviceType, Value.integer?, Value.isNull]
  · rintro rfl
    simp [Value.same, deviceType]

/-- A specification is that of the accelerator with an index where it names the type of a GPU and an equal index. -/
theorem isAt_eq_true_iff {index specification : Value} :
    isAt index specification = .ok true ↔ ∃ found, specification = .spec (.str "GPU") found ∧ found.same index = true := by
  constructor
  · intro hs
    cases specification with
    | spec type found =>
      rw [isAt_spec, Except.ok.injEq, Bool.and_eq_true, same_deviceType_iff] at hs
      obtain ⟨rfl, hf⟩ := hs
      exact ⟨found, rfl, hf⟩
    | _ => cases hs
  · rintro ⟨found, rfl, hf⟩
    rw [isAt_spec, Except.ok.injEq, Bool.and_eq_true]
    exact ⟨same_deviceType_iff.mpr rfl, hf⟩

/-- What is handed on is the copy, and only where it lies on the device. -/
theorem verdict_eq_ok_iff {text : String} {index copy place specification v : Value} :
    verdict text index copy place specification = .ok v ↔ isAt index specification = .ok true ∧ v = copy := by
  unfold verdict
  split
  · next hs => simp [hs]
  · next hs => simp [hs, eq_comm]
  · next hs _ => simp [hs]
  · next hs _ => simp [hs]

/-- A comparison that failed is an ordinary error. -/
theorem verdict_of_ne {text : String} {index copy place specification : Value} (hs : isAt index specification ≠ .ok true) :
    ∃ e, verdict text index copy place specification = .error e ∧ e.Ordinary := by
  unfold verdict
  split
  · exact ⟨_, rfl, rfl, _, rfl⟩
  · next h => exact absurd h hs
  · exact ⟨_, rfl, rfl, _, rfl⟩
  · exact ⟨_, rfl, rfl, _, rfl⟩

/-- The error of a copy that lies elsewhere names its place, where that can be named. -/
theorem verdict_of_elsewhere {text name : String} {index copy place specification : Value}
    (hs : isAt index specification = .ok false) (hn : placeText place = .ok name) :
    verdict text index copy place specification = .error (.misplaced name text) := by
  rw [verdict, hs, hn]

/-- A copy with something after it is known by its scope, its tensor and what comes after. -/
theorem copying_append_inj {text text' : String} {entered entered' tensor tensor' copy copy' left left' : Value}
    {rest rest' : History TensorFlowCall}
    (h : copying text entered tensor copy left ++ rest = copying text' entered' tensor' copy' left' ++ rest') :
    text = text' ∧ copy = copy' ∧ rest = rest' := by
  simp only [copying, scopeOf, List.cons_append, List.nil_append, List.cons.injEq, Event.called.injEq,
    TensorFlowCall.enter.injEq, Value.str.injEq, String.append_right_inj, Except.ok.injEq] at h
  obtain ⟨⟨htext, -⟩, ⟨-, hcopy⟩, -, hrest⟩ := h
  exact ⟨htext, hcopy, hrest⟩

namespace Move

variable {tensor index : Value} {h : History TensorFlowCall} {r : Reply}

/-- After the copy nothing is left to do but to parse its place, and to compare what came of that. -/
theorem after_copying {text : String} {entered copy left : Value} {rest : History TensorFlowCall}
    (hm : Move tensor index h r) (hh : h = copying text entered tensor copy left ++ rest) :
    index.toText = .ok text ∧ ((∃ fault, copy.heldBy = .error fault ∧ rest = [] ∧ r = .error (.value fault)) ∨
      ∃ place answer, copy.heldBy = .ok place ∧ rest = [.called (.parseDevice place) answer] ∧
        r = answer.bind (verdict text index copy place)) := by
  cases hm with
  | unscoped => cases hh
  | unentered => simp [copying] at hh
  | uncopied => simp [copying] at hh
  | unleft => simp [copying] at hh
  | placeless _ _ _ hi hp =>
    obtain ⟨rfl, rfl, rfl⟩ := copying_append_inj ((List.append_nil _).trans hh)
    exact ⟨hi, Or.inl ⟨_, hp, rfl, rfl⟩⟩
  | unparsed _ _ _ e hi hp =>
    obtain ⟨rfl, rfl, rfl⟩ := copying_append_inj hh
    exact ⟨hi, Or.inr ⟨_, .error e, hp, rfl, rfl⟩⟩
  | compared _ _ _ specification hi hp =>
    obtain ⟨rfl, rfl, rfl⟩ := copying_append_inj hh
    exact ⟨hi, Or.inr ⟨_, .ok specification, hp, rfl, rfl⟩⟩

/-- The parsing of a place is the end of a move. Unless it gave the device, the move fails: as the parsing did, or with an ordinary
error. -/
theorem refused {before after : History TensorFlowCall} {place : Value} {answer : Reply}
    (hm : Move tensor index (before ++ .called (.parseDevice place) answer :: after) r)
    (hn : ¬ ∃ found, answer = .ok (.spec (.str "GPU") found) ∧ found.same index = true) :
    after = [] ∧ ∃ e, r = .error e ∧ ((∀ e', answer = .error e' → e'.Ordinary) → e.Ordinary) := by
  generalize hh : before ++ .called (.parseDevice place) answer :: after = h at hm
  have hmem : .called (.parseDevice place) answer ∈ h := by simp [← hh]
  -- the copy comes first, and the place is not parsed in it
  have hcopy : ∀ text entered copy left, .called (.parseDevice place) answer ∉ copying text entered tensor copy left := by
    intro text entered copy left
    simp [copying]
  cases hm with
  | @unparsed text entered copy left _ e hi hp =>
    obtain ⟨more, rfl, hend⟩ := History.split_of_notMem hh.symm (hcopy text entered copy left)
    obtain ⟨rfl, hx, rfl⟩ := History.split_singleton hend
    cases hx
    exact ⟨rfl, e, rfl, fun h => h e rfl⟩
  | @compared text entered copy left specification _ hi hp =>
    obtain ⟨more, rfl, hend⟩ := History.split_of_notMem hh.symm (hcopy text entered copy left)
    obtain ⟨rfl, hx, rfl⟩ := History.split_singleton hend
    cases hx
    have hs : isAt index specification ≠ .ok true := fun hs => by
      obtain ⟨found, rfl, hf⟩ := isAt_eq_true_iff.mp hs
      exact hn ⟨found, rfl, hf⟩
    obtain ⟨e, he, ho⟩ := verdict_of_ne hs
    exact ⟨rfl, e, he, fun _ => ho⟩
  | _ => simp [copying] at hmem

end Move

/-- What the check of a moved tensor comes to: the copy is handed on only from the device, and whatever else was found is a
failure. -/
structure Checked (tensor index : Value) (h : History TensorFlowCall) (r : Reply) : Prop where
  /-- What is handed on is the copy that was made in the scope of the device, and its place was parsed as that device. -/
  placed : ∀ copy, r = .ok copy → ∃ text entered left place found, index.toText = .ok text ∧ copy.heldBy = .ok place ∧
    found.same index = true ∧ h = transfer text entered tensor copy left place (.spec (.str "GPU") found)
  /-- Where the tensor was copied in the scope, the place of the copy is parsed, and nothing comes after that. -/
  parsed : ∀ text entered copy left place, copying text entered tensor copy left <+: h → copy.heldBy = .ok place →
    ∃ answer, h = copying text entered tensor copy left ++ [.called (.parseDevice place) answer]
  /-- A place that is parsed as anything but the device is a failure, and the failure names that place wherever it can be named. -/
  refused : ∀ text entered copy left place type found,
    h = transfer text entered tensor copy left place (.spec type found) → ¬ (type = .str "GPU" ∧ found.same index = true) →
    ∃ e, r = .error e ∧ ∀ name, placeText place = .ok name → e = .misplaced name text

/-- Every move is checked. -/
theorem Move.checked {tensor index : Value} {h : History TensorFlowCall} {r : Reply} (hm : Move tensor index h r) :
    Checked tensor index h r where
  placed copy hr := by
    cases hm with
    | compared entered copy left specification hi hp =>
      obtain ⟨hs, rfl⟩ := verdict_eq_ok_iff.mp hr
      obtain ⟨found, rfl, hf⟩ := isAt_eq_true_iff.mp hs
      exact ⟨_, entered, left, _, found, hi, hp, hf, rfl⟩
    | _ => cases hr
  parsed text entered copy left place hc hp := by
    obtain ⟨rest, rfl⟩ := hc
    obtain ⟨_, ⟨_, hf, _, _⟩ | ⟨_, answer, hp', rfl, _⟩⟩ := hm.after_copying rfl
    · cases hp.symm.trans hf
    · cases hp.symm.trans hp'
      exact ⟨answer, rfl⟩
  refused text entered copy left place type found hh hn := by
    obtain ⟨hi, ⟨_, _, hx, _⟩ | ⟨_, _, _, hx, rfl⟩⟩ := hm.after_copying hh
    · cases hx
    · cases hx
      have hs : isAt index (.spec type found) = .ok false := by
        rw [isAt_spec, Except.ok.injEq, ← Bool.not_eq_true, Bool.and_eq_true, same_deviceType_iff]
        exact hn
      obtain ⟨e, he, -⟩ := verdict_of_ne (fun ht => nomatch hs.symm.trans ht)
      exact ⟨e, he, fun name hname => Except.error.inj (he.symm.trans (verdict_of_elsewhere hs hname))⟩

end TensorFlow

end AccelProbe
