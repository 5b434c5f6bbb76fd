import AccelProbe.Proofs.Backend.Loading
import AccelProbe.Proofs.Backend.Serves
import AccelProbe.Proofs.Program.Alike

/-!
# Libraries that keep to their documentation

`Torch.Lawful` and `TensorFlow.Lawful` say what each library does with each of its calls on a machine with some hardware: tensors are
made where they should be, and matrices have the products they should have. Torch moves tensors by operations of their own; TensorFlow
makes a tensor in the place that the innermost open scope stands for. Over a lawful library the backend of either serves the hardware.

What the elements of a tensor come to is no law, for they are random: `Torch.Reduces` and `TensorFlow.Reduces` say it of single
answers, so that it can be asked of those that a run meets with.
-/

namespace AccelProbe

open Value Program

namespace Torch

/-- The name of the host. -/
def hostName : String := "cpu"

/-- The name of the device with an index. -/
def deviceName (index : Int) : String := "cuda:" ++ intText index

/-- Whether a Torch finds this hardware and keeps to its documentation, as far as the device with this index is concerned. -/
structure Lawful (w : World TorchCall) (g : Hardware) (index : Int) : Prop where
  takes : w.TakesAll
  available : ∀ h, w.answer h .isAvailable = .ok (.bool (decide (0 < g.count)))
  counted : ∀ h, w.answer h .deviceCount = .ok (.int g.count)
  /-- A device is called by its name. -/
  named : ∀ h (i : Nat) name, g.names[i]? = some name → w.answer h (.deviceName i) = .ok (.str name)
  /-- A new tensor lies on the host. -/
  made : ∀ h sizes, sizesFit sizes = true → ∃ v, w.answer h (.rand (ofSizes sizes)) = .ok v ∧ v.LiesAt sizes hostName
  /-- A tensor that is moved lies on the device. -/
  moved : ∀ h sizes text, sizesFit sizes = true → ∃ v,
    w.answer h (.cuda (tensorAt sizes hostName text) (.int index)) = .ok v ∧ v.LiesAt sizes (deviceName index)
  /-- A matrix is turned around where it lies. -/
  turned : ∀ h n m place text, sizesFit [n, m] = true → ∃ v,
    w.answer h (.transpose (tensorAt [n, m] place text)) = .ok v ∧ v.LiesAt [m, n] place
  /-- Two matrices in one place have their product there. -/
  multiplied : ∀ h n m k place text text', sizesFit [n, m, k] = true → ∃ v,
    w.answer h (.matmul (tensorAt [n, m] place text) (tensorAt [m, k] place text')) = .ok v ∧ v.LiesAt [n, k] place
  /-- A tensor that is copied to the host lies there. -/
  copied : ∀ h sizes text, sizesFit sizes = true → ∃ v,
    w.answer h (.cpu (tensorAt sizes (deviceName index) text)) = .ok v ∧ v.LiesAt sizes hostName
  /-- How Torch was built can be asked, whatever it answers. -/
  built : ∀ h c, c = .hasCudnn ∨ c = .builtWithCuda ∨ c = .hasMkl ∨ c = .hasMps → ∃ v, w.answer h c = .ok v

/-- Whether a call that reduces a tensor to a number has the answer that a tensor of these sizes comes to. -/
def Reduces (g : Hardware) (sizes : List Nat) : TorchCall → Reply → Prop
  | .mean _, reply => reply = .ok (.float (g.mean sizes))
  | .max _, reply => reply = .ok (.float (g.greatest sizes))
  | .min _, reply => reply = .ok (.float (g.least sizes))
  | _, _ => True

/-- The answers to the calls that reduce a tensor of these sizes to a number. -/
def reduction (g : Hardware) (sizes : List Nat) : TorchCall → Reply
  | .mean _ => .ok (.float (g.mean sizes))
  | .max _ => .ok (.float (g.greatest sizes))
  | .min _ => .ok (.float (g.least sizes))
  | _ => .ok .null

theorem reduces_reduction (g : Hardware) (sizes : List Nat) (c : TorchCall) : Reduces g sizes c (reduction g sizes c) := by
  cases c <;> first | exact rfl | exact trivial

/-- A lawful Torch stays lawful where it is mended in what its tensors come to. -/
theorem Lawful.mended {w : World TorchCall} {g : Hardware} {index : Int} (hw : Lawful w g index) (sizes : List Nat)
    (own : TorchCall → Reply) : Lawful (w.mended (Reduces g sizes) own) g index where
  takes := hw.takes
  available h := (World.mended_answer trivial).trans (hw.available h)
  counted h := (World.mended_answer trivial).trans (hw.counted h)
  named h i name hname := (World.mended_answer trivial).trans (hw.named h i name hname)
  made h sizes hsizes := by
    rw [World.mended_answer trivial]
    exact hw.made h sizes hsizes
  moved h sizes text hsizes := by
    rw [World.mended_answer trivial]
    exact hw.moved h sizes text hsizes
  turned h n m place text hsizes := by
    rw [World.mended_answer trivial]
    exact hw.turned h n m place text hsizes
  multiplied h n m k place text text' hsizes := by
    rw [World.mended_answer trivial]
    exact hw.multiplied h n m k place text text' hsizes
  copied h sizes text hsizes := by
    rw [World.mended_answer trivial]
    exact hw.copied h sizes text hsizes
  built h c hc := by
    have hright : Reduces g sizes c (w.answer h c) := by rcases hc with rfl | rfl | rfl | rfl <;> exact trivial
    rw [World.mended_answer hright]
    exact hw.built h c hc

/-- The names of devices one after the other, where each is called by its name. -/
theorem gives_namesFrom {w : World TorchCall} {names : List String} {index : Int}
    (hn : ∀ h (i : Nat) name, names[i]? = some name → w.answer h (.deviceName (index + i)) = .ok (.str name)) :
    (namesFrom index names.length).Gives w (· = names.map .str) := by
  induction names generalizing index with
  | nil => exact .done rfl
  | cons name names ih =>
    have hfirst : (ask (.deviceName index)).Gives w (· = .str name) := by
      refine .ask ?_
      intro h
      have hname := hn h 0 name rfl
      rw [Int.natCast_zero, Int.add_zero] at hname
      exact ⟨_, hname, rfl⟩
    refine hfirst.bind ?_
    rintro _ rfl
    have hrest : (namesFrom (index + 1) names.length).Gives w (· = names.map .str) := by
      refine ih ?_
      intro h i other hi
      have hother := hn h (i + 1) other hi
      rwa [Int.natCast_succ, Int.add_comm (i : Int), ← Int.add_assoc] at hother
    refine hrest.bind ?_
    rintro _ rfl
    exact .done rfl

/-- Over a lawful Torch its backend serves the hardware. -/
theorem serves {w : World TorchCall} {g : Hardware} {index : Int} (hw : Lawful w g index) (version : String) :
    (backend (.str version)).Serves w g version index hostName (deviceName index) where
  takes := hw.takes
  version := by
    refine Gives.bind (.ofValue (toText_str version) rfl) ?_
    rintro _ rfl
    exact .done rfl
  available := .ask fun h => ⟨_, hw.available h, rfl⟩
  counted := .ask fun h => ⟨_, hw.counted h, rfl⟩
  made := by
    intro sizes hsizes
    refine Gives.bind (.ofValue (a := ofSizes sizes) rfl rfl) ?_
    rintro _ rfl
    exact .ask fun h => hw.made h sizes hsizes
  moved := by
    rintro sizes _ hsizes ⟨text, rfl⟩ h
    have hcuda : (ask (.cuda (tensorAt sizes hostName text) (.int index))).Gives w (·.LiesAt sizes (deviceName index)) :=
      .ask fun h => hw.moved h sizes text hsizes
    exact Or.inl (hcuda h)
  multiplied := by
    rintro n m _ hsizes ⟨text, rfl⟩
    have hturned : (ask (.transpose (tensorAt [n, m] (deviceName index) text))).Gives w (·.LiesAt [m, n] (deviceName index)) :=
      .ask fun h => hw.turned h n m _ text hsizes
    refine hturned.bind ?_
    rintro _ ⟨text', rfl⟩
    exact .ask fun h => hw.multiplied h n m n _ text text' (sizesFit_of_subset hsizes (by simp))
  copied := by
    rintro sizes _ hsizes ⟨text, rfl⟩
    exact Gives.ask fun h => hw.copied h sizes text hsizes
  printed := Backend.gives_printed w
  built := by
    have hany (c : TorchCall) (hc : c = .hasCudnn ∨ c = .builtWithCuda ∨ c = .hasMkl ∨ c = .hasMps) :
        (ask c).Gives w fun _ => True := by
      refine .ask fun h => ?_
      obtain ⟨v, hv⟩ := hw.built h c hc
      exact ⟨v, hv, trivial⟩
    refine (hany .hasCudnn (by simp)).bind fun cudnn _ => (hany .builtWithCuda (by simp)).bind fun cuda _ => ?_
    exact (hany .hasMkl (by simp)).bind fun mkl _ => (hany .hasMps (by simp)).bind fun mps _ => .done ⟨_, rfl⟩
  named := by
    have hcount : (ask .deviceCount).Gives w (· = .int g.count) := .ask fun h => ⟨_, hw.counted h, rfl⟩
    refine hcount.bind ?_
    rintro _ rfl
    refine Gives.bind (.ofValue (a := (g.count : Int)) rfl rfl) ?_
    rintro _ rfl
    have hnames : (namesFrom 0 g.names.length).Gives w (· = g.names.map .str) := by
      refine gives_namesFrom ?_
      intro h i name hi
      rw [Int.zero_add]
      exact hw.named h i name hi
    refine Gives.bind hnames ?_
    rintro _ rfl
    exact .done rfl

/-- Over a Torch that always reduces tensors to the same numbers, its backend measures them so. -/
theorem measures {w : World TorchCall} {g : Hardware} {sizes : List Nat} (hw : ∀ h c, Reduces g sizes c (w.answer h c))
    (version : String) : (backend (.str version)).Measures w g sizes hostName := by
  rintro _ ⟨text, rfl⟩
  have hmean : (ask (.mean (tensorAt sizes hostName text))).Gives w (· = .float (g.mean sizes)) :=
    .ask fun h => ⟨_, hw h (.mean _), rfl⟩
  have hgreatest : (ask (.max (tensorAt sizes hostName text))).Gives w (· = .float (g.greatest sizes)) :=
    .ask fun h => ⟨_, hw h (.max _), rfl⟩
  have hleast : (ask (.min (tensorAt sizes hostName text))).Gives w (· = .float (g.least sizes)) :=
    .ask fun h => ⟨_, hw h (.min _), rfl⟩
  refine hmean.bind ?_
  rintro _ rfl
  refine hgreatest.bind ?_
  rintro _ rfl
  refine hleast.bind ?_
  rintro _ rfl
  exact .done rfl

end Torch

namespace TensorFlow

/-- The names under which scopes are entered, each with the place that it stands for: the host, the device by the name that its index
gives, and the device by the name of its place. -/
inductive StandsFor (index : Int) (host device : String) : Value → String → Prop where
  | host : StandsFor index host device hostScope host
  | short : StandsFor index host device (.str ("/GPU:" ++ intText index)) device
  | full : StandsFor index host device (.str device) device

/-- Whether a TensorFlow finds this hardware and keeps to its documentation, as far as the device with this index is concerned. The
places of tensors on the host and on the device have these names. -/
structure Lawful (w : World TensorFlowCall) (g : Hardware) (index : Int) (host device : String) : Prop where
  takes : w.TakesAll
  /-- The list of the devices is always the same, and the details of each call it by its name. -/
  listed : ∃ own : List Value, own.length = g.names.length ∧ (∀ h, w.answer h .listDevices = .ok (.list (own.map .device))) ∧
    ∀ v name, (v, name) ∈ own.zip g.names → ∀ h, ∃ details,
      w.answer h (.deviceDetails (.device v)) = .ok (.dictionary details) ∧ details.lookup "device_name" = some (.str name)
  /-- A scope is entered, and it is left. -/
  entered : ∀ h scope place, StandsFor index host device scope place → ∃ v, w.answer h (.enter scope) = .ok v
  left : ∀ h scope place, StandsFor index host device scope place → ∃ v, w.answer h (.exit scope) = .ok v
  /-- The name of the place on the device is that of the GPU with the index. -/
  parsed : ∀ h, w.answer h (.parseDevice (.str device)) = .ok (.spec (.str "GPU") (.int index))
  /-- A tensor is made in the place that the innermost open scope stands for, and so are copies and products. -/
  made : ∀ h scope rest place sizes, openScopes h = scope :: rest → StandsFor index host device scope place →
    sizesFit sizes = true → ∃ v, w.answer h (.uniform (.tuple (ofSizes sizes))) = .ok v ∧ v.LiesAt sizes place
  copied : ∀ h scope rest place sizes source text, openScopes h = scope :: rest → StandsFor index host device scope place →
    sizesFit sizes = true → ∃ v, w.answer h (.identity (tensorAt sizes source text)) = .ok v ∧ v.LiesAt sizes place
  multiplied : ∀ h scope rest place n m k left right text text', openScopes h = scope :: rest →
    StandsFor index host device scope place → sizesFit [n, m, k] = true → ∃ v,
      w.answer h (.matmul (tensorAt [n, m] left text) (tensorAt [k, m] right text')) = .ok v ∧ v.LiesAt [n, k] place
  /-- How TensorFlow was built can be asked, whatever it answers. -/
  built : ∀ h c, c = .builtWithCuda ∨ c = .builtWithGpuSupport → ∃ v, w.answer h c = .ok v

/-- Whether a call that reduces a tensor to a number has an answer that counts as the number that a tensor of these sizes comes to. -/
def Reduces (g : Hardware) (sizes : List Nat) : TensorFlowCall → Reply → Prop
  | .mean _, reply => ∃ v, reply = .ok v ∧ v.toDouble = .ok (g.mean sizes)
  | .max _, reply => ∃ v, reply = .ok v ∧ v.toDouble = .ok (g.greatest sizes)
  | .min _, reply => ∃ v, reply = .ok v ∧ v.toDouble = .ok (g.least sizes)
  | _, _ => True

/-- The answers to the calls that reduce a tensor of these sizes to a number. -/
def reduction (g : Hardware) (sizes : List Nat) : TensorFlowCall → Reply
  | .mean _ => .ok (.float (g.mean sizes))
  | .max _ => .ok (.float (g.greatest sizes))
  | .min _ => .ok (.float (g.least sizes))
  | _ => .ok .null

theorem reduces_reduction (g : Hardware) (sizes : List Nat) (c : TensorFlowCall) : Reduces g sizes c (reduction g sizes c) := by
  cases c <;> first | exact ⟨_, rfl, rfl⟩ | exact trivial

/-- A lawful TensorFlow stays lawful where it is mended in what its tensors come to. -/
theorem Lawful.mended {w : World TensorFlowCall} {g : Hardware} {index : Int} {host device : String}
    (hw : Lawful w g index host device) (sizes : List Nat) (own : TensorFlowCall → Reply) :
    Lawful (w.mended (Reduces g sizes) own) g index host device where
  takes := hw.takes
  listed := by
    obtain ⟨names, hlength, hlist, hdetails⟩ := hw.listed
    refine ⟨names, hlength, fun h => (World.mended_answer trivial).trans (hlist h), ?_⟩
    intro v name hm h
    rw [World.mended_answer trivial]
    exact hdetails v name hm h
  entered h scope place hs := by
    rw [World.mended_answer trivial]
    exact hw.entered h scope place hs
  left h scope place hs := by
    rw [World.mended_answer trivial]
    exact hw.left h scope place hs
  parsed h := (World.mended_answer trivial).trans (hw.parsed h)
  made h scope rest place sizes hopen hs hsizes := by
    rw [World.mended_answer trivial]
    exact hw.made h scope rest place sizes hopen hs hsizes
  copied h scope rest place sizes source text hopen hs hsizes := by
    rw [World.mended_answer trivial]
    exact hw.copied h scope rest place sizes source text hopen hs hsizes
  multiplied h scope rest place n m k left right text text' hopen hs hsizes := by
    rw [World.mended_answer trivial]
    exact hw.multiplied h scope rest place n m k left right text text' hopen hs hsizes
  built h c hc := by
    have hright : Reduces g sizes c (w.answer h c) := by rcases hc with rfl | rfl <;> exact trivial
    rw [World.mended_answer hright]
    exact hw.built h c hc

/-- A scope that was entered is the innermost one. -/
theorem openScopes_entered (h : History TensorFlowCall) (scope v : Value) :
    openScopes (h ++ [.called (.enter scope) (.ok v)]) = scope :: openScopes h := by
  simp [openScopes, List.foldl_append]

variable {w : World TensorFlowCall} {g : Hardware} {index : Int} {host device : String}

/-- A call in a scope is answered as it is while the scope is the innermost one. -/
theorem Lawful.gives_within (hw : Lawful w g index host device) {scope : Value} {place : String} {c : TensorFlowCall}
    {P : Value → Prop} (hs : StandsFor index host device scope place)
    (hc : ∀ h rest, openScopes h = scope :: rest → ∃ v, w.answer h c = .ok v ∧ P v) :
    (within scope (ask c)).Gives w P := by
  intro h
  obtain ⟨entered, henter⟩ := hw.entered h scope place hs
  obtain ⟨v, hv, hP⟩ := hc _ _ (openScopes_entered h scope entered)
  refine ⟨v, ?_, hP⟩
  rw [within, run_bind, run_ask, henter]
  change ((closing (ask (.exit scope)) (ask c)).run w (h ++ [.called (.enter scope) (.ok entered)])).2 = .ok v
  rw [ask, ask, closing, run, hv]
  obtain ⟨left, hexit⟩ := hw.left (h ++ [.called (.enter scope) (.ok entered)] ++ [.called c (.ok v)]) scope place hs
  change (((ask (.exit scope)).bind fun _ => done v).run w _).2 = .ok v
  rw [run_bind, run_ask, hexit]
  rfl

/-- A statistic whose value counts as a number is that number. -/
theorem gives_statistic {c : TensorFlowCall} {x : Double} (hc : ∀ h, ∃ v, w.answer h c = .ok v ∧ v.toDouble = .ok x) :
    (statistic c).Gives w (· = .float x) := by
  have hask : (ask c).Gives w fun v => v.toDouble = .ok x := .ask hc
  refine hask.bind ?_
  intro v hv
  refine Gives.bind (.ofValue hv rfl) ?_
  rintro _ rfl
  exact .done rfl

/-- The names of devices whose details call them by their names. -/
theorem gives_namesOf {own : List Value} {names : List String} (hlength : own.length = names.length)
    (hnames : ∀ v name, (v, name) ∈ own.zip names → ∀ h, ∃ details,
      w.answer h (.deviceDetails (.device v)) = .ok (.dictionary details) ∧ details.lookup "device_name" = some (.str name)) :
    (namesOf (own.map .device)).Gives w (· = names.map .str) := by
  induction own generalizing names with
  | nil =>
    obtain rfl : names = [] := List.length_eq_zero_iff.mp hlength.symm
    exact .done rfl
  | cons v own ih =>
    obtain ⟨name, names, rfl⟩ := List.exists_cons_of_length_eq_add_one hlength.symm
    have hdetails : (ask (.deviceDetails (.device v))).Gives w fun details =>
        details.detail "device_name" (Value.deviceName (.device v)) = .ok (.str name) := by
      refine .ask fun h => ?_
      obtain ⟨details, hv, hname⟩ := hnames v name List.mem_cons_self h
      refine ⟨.dictionary details, hv, ?_⟩
      simp [Value.detail, Value.deviceName, Except.map, hname]
    refine hdetails.bind ?_
    intro details hname
    refine Gives.bind (.ofValue hname rfl) ?_
    rintro _ rfl
    have hrest : (namesOf (own.map .device)).Gives w (· = names.map .str) :=
      ih (Nat.succ.inj hlength) fun v' name' hm => hnames v' name' (List.mem_cons_of_mem _ hm)
    refine hrest.bind ?_
    rintro _ rfl
    exact .done rfl

/-- A tensor on the device passes the check of its place. -/
theorem Lawful.gives_placed (hw : Lawful w g index host device) {sizes : List Nat} {tensor : Value}
    (ht : tensor.LiesAt sizes device) : (placed (.int index) tensor).Gives w (·.LiesAt sizes device) := by
  obtain ⟨text, rfl⟩ := ht
  refine Gives.bind (.ofValue (a := .str device) rfl rfl) ?_
  rintro _ rfl
  have hparse : (ask (.parseDevice (.str device))).Gives w (· = .spec (.str "GPU") (.int index)) :=
    .ask fun h => ⟨_, hw.parsed h, rfl⟩
  refine hparse.bind ?_
  rintro _ rfl
  have hsame : (Value.int index).same (.int index) = true := by simp [Value.same, Value.integer?]
  have hright : isAt (.int index) (.spec (.str "GPU") (.int index)) = .ok true := isAt_eq_true_iff.mpr ⟨_, rfl, hsame⟩
  refine Gives.bind (.ofValue hright rfl) ?_
  rintro _ rfl
  exact .done ⟨text, rfl⟩

/-- The number of the devices is that of the hardware. -/
theorem Lawful.gives_countDevices (hw : Lawful w g index host device) : countDevices.Gives w (· = g.count) := by
  obtain ⟨own, hlength, hlist, -⟩ := hw.listed
  have hdevices : (ask .listDevices).Gives w (· = .list (own.map .device)) := .ask fun h => ⟨_, hlist h, rfl⟩
  refine hdevices.bind ?_
  rintro _ rfl
  refine .ofValue (a := g.count) ?_ rfl
  rw [Value.length, List.length_map, hlength]
  rfl

/-- A tensor is moved to the device, unless its index has too many digits for the name of a scope. -/
theorem Lawful.ends_toAccelerator (hw : Lawful w g index host device) (version : Value) {sizes : List Nat} {tensor : Value}
    (hsizes : sizesFit sizes = true) (ht : tensor.LiesAt sizes host) :
    (perform version (.toAccelerator tensor (.int index))).Ends w fun r =>
      (∃ v, r = .ok v ∧ v.LiesAt sizes device) ∨ (Digits.fits index = false ∧ r = .error (.value .integerTooLong)) := by
  obtain ⟨text, rfl⟩ := ht
  cases hi : Digits.fits index with
  | true =>
    have hscope : deviceScope (.int index) = .ok (.str ("/GPU:" ++ intText index)) := by
      rw [deviceScope, toText_int_of_fits hi]
      rfl
    have hcopy : (within (.str ("/GPU:" ++ intText index)) (ask (.identity (tensorAt sizes host text)))).Gives w
        (·.LiesAt sizes device) :=
      hw.gives_within .short fun h rest hopen => hw.copied h _ rest device sizes host text hopen .short hsizes
    have hmove : (perform version (.toAccelerator (tensorAt sizes host text) (.int index))).Gives w (·.LiesAt sizes device) := by
      refine Gives.bind (.ofValue hscope rfl) ?_
      rintro _ rfl
      exact hcopy.bind fun _ => hw.gives_placed
    exact fun h => Or.inl (hmove h)
  | false =>
    have hscope : deviceScope (.int index) = .error .integerTooLong := by
      rw [deviceScope, toText_int_of_not_fits hi]
      rfl
    intro h
    refine Or.inr ⟨rfl, ?_⟩
    rw [perform, hscope]
    rfl

/-- Over a lawful TensorFlow its backend serves the hardware. -/
theorem serves (hw : Lawful w g index host device) (version : String) :
    (backend (.str version)).Serves w g version index host device where
  takes := hw.takes
  version := .done rfl
  available := by
    refine hw.gives_countDevices.bind ?_
    rintro _ rfl
    exact .done rfl
  counted := by
    refine hw.gives_countDevices.bind ?_
    rintro _ rfl
    exact .done rfl
  made := by
    intro sizes hsizes
    exact hw.gives_within .host fun h rest hopen => hw.made h _ rest host sizes hopen .host hsizes
  moved := fun sizes tensor hsizes ht => hw.ends_toAccelerator (.str version) hsizes ht
  multiplied := by
    rintro n m _ hsizes ⟨text, rfl⟩
    refine Gives.bind (.ofValue (a := .str device) rfl rfl) ?_
    rintro _ rfl
    exact hw.gives_within .full fun h rest hopen =>
      hw.multiplied h _ rest device n m n device device text text hopen .full (sizesFit_of_subset hsizes (by simp))
  copied := by
    rintro sizes _ hsizes ⟨text, rfl⟩
    exact hw.gives_within .host fun h rest hopen => hw.copied h _ rest host sizes device text hopen .host hsizes
  printed := Backend.gives_printed w
  built := by
    have hany (c : TensorFlowCall) (hc : c = .builtWithCuda ∨ c = .builtWithGpuSupport) : (ask c).Gives w fun _ => True := by
      refine .ask fun h => ?_
      obtain ⟨v, hv⟩ := hw.built h c hc
      exact ⟨v, hv, trivial⟩
    exact (hany .builtWithCuda (Or.inl rfl)).bind fun cuda _ => (hany .builtWithGpuSupport (Or.inr rfl)).bind fun gpu _ =>
      .done ⟨_, rfl⟩
  named := by
    obtain ⟨own, hlength, hlist, hdetails⟩ := hw.listed
    have hdevices : (ask .listDevices).Gives w (· = .list (own.map .device)) := .ask fun h => ⟨_, hlist h, rfl⟩
    refine hdevices.bind ?_
    rintro _ rfl
    refine Gives.bind (.ofValue (a := own.map .device) rfl rfl) ?_
    rintro _ rfl
    refine Gives.bind (gives_namesOf hlength hdetails) ?_
    rintro _ rfl
    exact .done rfl

/-- Over a TensorFlow that always reduces tensors to the same numbers, its backend measures them so. -/
theorem measures {sizes : List Nat} (hw : ∀ h c, Reduces g sizes c (w.answer h c)) (version : String) :
    (backend (.str version)).Measures w g sizes host := by
  rintro _ ⟨text, rfl⟩
  refine Gives.bind (gives_statistic fun h => hw h (.mean (tensorAt sizes host text))) ?_
  rintro _ rfl
  refine Gives.bind (gives_statistic fun h => hw h (.max (tensorAt sizes host text))) ?_
  rintro _ rfl
  refine Gives.bind (gives_statistic fun h => hw h (.min (tensorAt sizes host text))) ?_
  rintro _ rfl
  exact .done rfl

end TensorFlow

end AccelProbe
