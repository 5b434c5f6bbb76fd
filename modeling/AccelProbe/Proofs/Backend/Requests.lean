import AccelProbe.Proofs.Backend.Loading
import AccelProbe.Proofs.Configuration.Conditions
import AccelProbe.Proofs.Logging.Steps

/-!
# Backends that are asked for one after the other

A backend is asked for by the name of its library. The names that are understood are those that a configuration accepts, and a name that
is not understood changes nothing. A library is loaded when it is asked for and is not there; one that failed to load is loaded again the
next time. Before TensorFlow is loaded its messages and its loggers are silenced, so whatever was asked for before, it is loaded on a
silenced host. The variable for its messages is written by the first request for TensorFlow, if nobody has set it, and never again.
-/

namespace AccelProbe

/-- The library that a call loads. -/
def LibraryCall.loads? : LibraryCall → Option Library
  | .torch (.load _) => some .torch
  | .tensorflow (.load _) => some .tensorflow
  | _ => none

/-- What a library gave when it was loaded, if a history tells of that. -/
def History.kept? (past : History LibraryCall) (l : Library) : Option Value :=
  past.findSome? fun
    | .called c (.ok version) => if c.loads? = some l then some version else none
    | _ => none

/-- A world in which a library that was loaded is there from then on: it gives what it gave, and is not loaded again. -/
def World.keeping (w : World LibraryCall) : World LibraryCall where
  answer := fun past c =>
    match c.loads?.bind past.kept? with
    | some version => .ok version
    | none => w.answer past c
  take := w.take

/-- A host whose loggers have passed the records of some events. -/
def Host.noting (h : Host) (events : History LibraryCall) : Host :=
  { h with logging := (h.logging.logAll events.records).1 }

namespace Backend

open Program

/-- What a request for a backend finds: the host, and what happened to the libraries before. -/
structure Scene where
  /-- The host. -/
  host : Host
  /-- What happened before. -/
  past : History LibraryCall := []

variable (w : World LibraryCall)

namespace Scene

/-- A request for the backend of the library of a name: what it leaves, and the backend or why there is none. -/
def request (s : Scene) (name : String) : Scene × Except Failure (Backend LibraryCall) :=
  let (host, program) := create (.str name) s.host
  let (past, result) := program.run w.keeping s.past
  ({ host := host.noting (past.drop s.past.length), past }, result)

/-- What several requests leave, one after the other. -/
def after (s : Scene) (names : List String) : Scene := names.foldl (fun s name => (s.request w name).1) s

/-- The names among several requests whose request changed the environment. -/
def writers (s : Scene) : List String → List String
  | [] => []
  | name :: names =>
    let next := (s.request w name).1
    if next.host.environment = s.host.environment then next.writers names else name :: next.writers names

end Scene

/-- Whether a configuration accepts this name and takes it for this library. -/
def Chosen (name : String) (l : Library) : Prop :=
  ∃ c, Configuration.make [("backend", .str name)] = .ok c ∧ c.backend = .str l.key

/-- Whether TensorFlow's messages and loggers are silenced on a host. -/
structure Silenced (h : Host) : Prop where
  /-- The level of its messages is set. -/
  messages : (h.environment.value? Environment.minLogLevel).isSome = true
  /-- Its loggers let errors through and nothing below. -/
  loggers : ∀ name ∈ Logging.tensorflowLoggers, h.logging.ownLevel name = Level.error

/-- What comes of a request for the backend of a name. -/
structure Answered (s : Scene) (name : String) : Prop where
  /-- A backend is given, or a library is called, exactly where a configuration accepts the name. -/
  accepts : ((∃ b, (s.request w name).2 = .ok b) ∨ (s.request w name).1.past.calls ≠ s.past.calls) ↔
    ∃ c, Configuration.make [("backend", .str name)] = .ok c
  /-- The library is the one that the configuration takes the name for. It is the only one that is called, once, to load it on a host
  that was prepared for it, and gives what it gave before if it was loaded before. What comes of the call comes of the request. -/
  chosen : ∀ l, Chosen name l → ∃ reply,
    (s.request w name).1.past =
      s.past ++ [.logged (loadingRecord l), .called (loadCall (create (.str name) s.host).1 l) reply] ∧
    (reply = match s.past.kept? l with
      | some version => .ok version
      | none => w.answer (s.past ++ [.logged (loadingRecord l)]) (loadCall (create (.str name) s.host).1 l)) ∧
    (s.request w name).2 = reply.map fun version => loaded version l
  /-- A name that a configuration does not accept changes nothing, and the failure names it. -/
  refused : (∀ l, ¬ Chosen name l) → s.request w name = (s, .error (.unknownLibrary name)) ∧
    (Failure.unknownLibrary name).message = .ok ("Backend " ++ name ++ " not found. Available: ['torch', 'tensorflow']")
  /-- The host on which TensorFlow is loaded is silenced, and so is the one that the request leaves. -/
  silenced : Chosen name .tensorflow → Silenced (create (.str name) s.host).1 ∧ Silenced (s.request w name).1.host
  /-- A request for Torch changes neither the environment nor the level of any logger. -/
  torch : Chosen name .torch → (s.request w name).1.host.environment = s.host.environment ∧
    Logging.SameRoot (s.request w name).1.host.logging s.host.logging ∧
    ∀ logger, (s.request w name).1.host.logging.ownLevel logger = s.host.logging.ownLevel logger

/-- What comes of several requests, one after the other. -/
structure Served (s : Scene) (names : List String) : Prop where
  /-- Each of them is answered, whatever was asked for before. -/
  each : ∀ earlier name later, names = earlier ++ name :: later → Answered w (s.after w earlier) name
  /-- The environment is written at most once. -/
  once : (s.writers w names).length ≤ 1
  /-- It is written by a request for TensorFlow only, and only where nobody had set the level of its messages. -/
  writer : ∀ name ∈ s.writers w names, Chosen name .tensorflow ∧ s.host.environment.value? Environment.minLogLevel = none
  /-- In the end the environment is as it was, or that level was added to it. -/
  environment : (s.after w names).host.environment = s.host.environment ∨
    s.host.environment.value? Environment.minLogLevel = none ∧
      (s.after w names).host.environment = s.host.environment ++ [(Environment.minLogLevel, Environment.errorsOnly)]
  /-- What the user has set stays. -/
  kept : ∀ v, s.host.environment.value? Environment.minLogLevel = some v → (s.after w names).host.environment = s.host.environment

variable {w} {s : Scene} {name : String} {l : Library}

/-! ## Names -/

/-- A configuration that is given a name alone accepts it exactly where it is the name of a library. -/
theorem make_backend (name : String) : Configuration.make [("backend", .str name)] =
    match Library.named? name with
    | some l => .ok { Configuration.standard with backend := .str l.key }
    | none => .error (.field (.unknownBackend (.str name))) := by
  have hnames : ∀ f ∈ [("backend", Value.str name)], f.1 ∈ Configuration.signature.names := by
    intro f hf
    obtain rfl := List.mem_singleton.mp hf
    exact List.mem_cons_self
  have hfields : Configuration.ofFields [("backend", .str name)] = { Configuration.standard with backend := .str name } := rfl
  rw [Configuration.make_eq hnames, hfields, Configuration.verdict, Configuration.validate, Configuration.backend?]
  cases Library.named? name <;> rfl

/-- The library that a configuration takes a name for is the one that a request looks up. -/
theorem chosen_iff : Chosen name l ↔ Library.named? name = some l := by
  unfold Chosen
  rw [make_backend]
  cases hn : Library.named? name with
  | none =>
    constructor
    · rintro ⟨c, hc, -⟩
      cases hc
    · exact nofun
  | some k =>
    constructor
    · rintro ⟨c, hc, hl⟩
      cases hc
      have hkey : k.key = l.key := Value.str.inj hl
      exact (Library.ofKey?_eq_some_iff.mpr rfl).symm.trans (Library.ofKey?_eq_some_iff.mpr hkey)
    · intro hl
      cases hl
      exact ⟨_, rfl, rfl⟩

/-! ## One request -/

/-- A library is loaded by one call behind one record. -/
theorem run_load (w : World LibraryCall) (h : Host) (l : Library) (past : History LibraryCall) :
    (load h l).run w past =
      (past ++ [.logged (loadingRecord l), .called (loadCall h l) (w.answer (past ++ [.logged (loadingRecord l)]) (loadCall h l))],
        (w.answer (past ++ [.logged (loadingRecord l)]) (loadCall h l)).map fun version => loaded version l) := by
  rw [load_eq, note, ask]
  simp only [Program.bind, Program.run]
  rw [List.append_assoc]
  cases w.answer (past ++ [.logged (loadingRecord l)]) (loadCall h l) <;> rfl

theorem loads?_loadCall (h : Host) (l : Library) : (loadCall h l).loads? = some l := by
  cases l <;> rfl

/-- A name of no library is refused. -/
theorem request_of_unnamed (h : Library.named? name = none) : s.request w name = (s, .error (.unknownLibrary name)) := by
  have hcreate : create (.str name) s.host = (s.host, fail (.unknownLibrary name)) := by
    simp only [create, library?, h]
  rw [Scene.request, hcreate]
  simp only [Program.run, List.drop_length]
  rfl

/-- The name of a library has it loaded on a host that is prepared for it. -/
theorem create_of_named (h : Library.named? name = some l) (host : Host) :
    create (.str name) host = (prepare host l, load (prepare host l) l) := by
  simp only [create, library?, h]

/-- The answer to the call that a request for a library makes. -/
def Scene.reply (w : World LibraryCall) (s : Scene) (l : Library) : Reply :=
  w.keeping.answer (s.past ++ [.logged (loadingRecord l)]) (loadCall (prepare s.host l) l)

/-- The name of a library has a record logged and the library called. -/
theorem request_of_named (h : Library.named? name = some l) :
    s.request w name =
      ({ host := (prepare s.host l).noting [.logged (loadingRecord l), .called (loadCall (prepare s.host l) l) (s.reply w l)]
         past := s.past ++ [.logged (loadingRecord l), .called (loadCall (prepare s.host l) l) (s.reply w l)] },
        (s.reply w l).map fun version => loaded version l) := by
  rw [Scene.request, create_of_named h]
  dsimp only
  rw [run_load]
  simp only [List.drop_left]
  rfl

/-- A record tells nothing of what libraries gave. -/
theorem kept?_snoc (past : History LibraryCall) (r : LogRecord) (l : Library) :
    History.kept? (past ++ [.logged r]) l = past.kept? l := by
  rw [History.kept?, List.findSome?_append]
  exact Option.or_none

/-- A library gives what it gave before, or else what the world has for the call. -/
theorem reply_eq (w : World LibraryCall) (s : Scene) (l : Library) :
    s.reply w l = match s.past.kept? l with
      | some version => .ok version
      | none => w.answer (s.past ++ [.logged (loadingRecord l)]) (loadCall (prepare s.host l) l) := by
  simp only [Scene.reply, World.keeping, loads?_loadCall, Option.bind_some, kept?_snoc]

/-! ## The host -/

/-- To silence TensorFlow's loggers sets their levels and no others. -/
theorem ownLevel_quieten (logging : Logging) (logger : String) :
    logging.quieten.ownLevel logger = if logger ∈ Logging.tensorflowLoggers then Level.error else logging.ownLevel logger := by
  change ((logging.setLevel "tensorflow" Level.error).setLevel "absl" Level.error).ownLevel logger = _
  rw [Logging.ownLevel_setLevel, Logging.ownLevel_setLevel]
  by_cases ha : logger = "absl"
  · simp [ha, Logging.tensorflowLoggers]
  · by_cases ht : logger = "tensorflow"
    · simp [ht, Logging.tensorflowLoggers]
    · simp [ha, ht, Logging.tensorflowLoggers]

/-- A host that is prepared for TensorFlow is silenced. -/
theorem silenced_prepare (h : Host) : Silenced (prepare h .tensorflow) where
  messages := by
    change ((h.environment.setDefault Environment.minLogLevel Environment.errorsOnly).value? Environment.minLogLevel).isSome = true
    rw [Environment.value?_setDefault, if_pos rfl]
    rfl
  loggers := by
    intro logger hlogger
    change h.logging.quieten.ownLevel logger = Level.error
    rw [ownLevel_quieten, if_pos hlogger]

/-- Records that pass the loggers leave a host silenced. -/
theorem Silenced.noting {h : Host} (hh : Silenced h) (events : History LibraryCall) : Silenced (h.noting events) where
  messages := hh.messages
  loggers := fun logger hlogger => (Logging.ownLevel_logAll h.logging events.records logger).trans (hh.loggers logger hlogger)

/-- A request is answered, whatever happened before it. -/
theorem answered (w : World LibraryCall) (s : Scene) (name : String) : Answered w s name := by
  refine ⟨?accepts, ?chosen, ?refused, ?silenced, ?torch⟩
  case accepts =>
    cases hn : Library.named? name with
    | none =>
      rw [request_of_unnamed hn, make_backend, hn]
      simp
    | some l =>
      rw [request_of_named hn, make_backend, hn]
      simp [History.calls]
  case chosen =>
    intro l hl
    have hn := chosen_iff.mp hl
    refine ⟨s.reply w l, ?_, ?_, ?_⟩
    · rw [request_of_named hn, create_of_named hn]
    · rw [create_of_named hn]
      exact reply_eq w s l
    · rw [request_of_named hn]
  case refused =>
    intro h
    have hn : Library.named? name = none := by
      cases hn : Library.named? name with
      | none => rfl
      | some l => exact absurd (chosen_iff.mpr hn) (h l)
    have hkeys : (Value.list (Library.keys.map .str)).source = "['torch', 'tensorflow']" := by decide
    refine ⟨request_of_unnamed hn, ?_⟩
    rw [Failure.message, hkeys]
    simp only [String.append_assoc]
    rfl
  case silenced =>
    intro hl
    have hn := chosen_iff.mp hl
    rw [request_of_named hn, create_of_named hn]
    exact ⟨silenced_prepare s.host, (silenced_prepare s.host).noting _⟩
  case torch =>
    intro hl
    rw [request_of_named (chosen_iff.mp hl)]
    exact ⟨rfl, Logging.SameRoot.logAll s.host.logging _, Logging.ownLevel_logAll s.host.logging _⟩

/-! ## Several requests -/

/-- A variable that is missing is added. -/
theorem setDefault_of_missing {env : Environment} {key value : String} (h : env.value? key = none) :
    env.setDefault key value = env ++ [(key, value)] := by
  rw [Environment.setDefault, h]

/-- A request leaves the environment as it was, or it is for TensorFlow and sets the level of its messages that nobody had set. -/
theorem environment_request (w : World LibraryCall) (s : Scene) (name : String) :
    (s.request w name).1.host.environment = s.host.environment ∨
      Chosen name .tensorflow ∧ s.host.environment.value? Environment.minLogLevel = none ∧
        (s.request w name).1.host.environment = s.host.environment ++ [(Environment.minLogLevel, Environment.errorsOnly)] := by
  cases hn : Library.named? name with
  | none =>
    rw [request_of_unnamed hn]
    exact Or.inl rfl
  | some l =>
    rw [request_of_named hn]
    cases l with
    | torch => exact Or.inl rfl
    | tensorflow =>
      change s.host.environment.setDefault Environment.minLogLevel Environment.errorsOnly = _ ∨ _ ∧ _ ∧
        s.host.environment.setDefault Environment.minLogLevel Environment.errorsOnly = _
      unfold Environment.setDefault
      cases hv : s.host.environment.value? Environment.minLogLevel with
      | some v => exact Or.inl rfl
      | none => exact Or.inr ⟨chosen_iff.mpr hn, rfl, rfl⟩

/-- The first of several requests comes before the others. -/
theorem after_cons (w : World LibraryCall) (s : Scene) (name : String) (names : List String) :
    s.after w (name :: names) = (s.request w name).1.after w names := by
  simp only [Scene.after, List.foldl_cons]

/-- Where the level of TensorFlow's messages is set, no request changes the environment. -/
theorem writers_of_set {v : String} (names : List String) (h : s.host.environment.value? Environment.minLogLevel = some v) :
    s.writers w names = [] ∧ (s.after w names).host.environment = s.host.environment := by
  induction names generalizing s with
  | nil => exact ⟨rfl, rfl⟩
  | cons name names ih =>
    rcases environment_request w s name with hsame | ⟨-, hnone, -⟩
    · obtain ⟨hwriters, hafter⟩ := ih (s := (s.request w name).1) (by rw [hsame, h])
      rw [after_cons, Scene.writers, if_pos hsame, hwriters, hafter, hsame]
      exact ⟨rfl, rfl⟩
    · cases hnone.symm.trans h

/-- Of several requests none changes the environment, or one does: it is for TensorFlow, and sets the level of its messages that nobody
had set. -/
theorem writers_cases (w : World LibraryCall) (s : Scene) (names : List String) :
    (s.writers w names = [] ∧ (s.after w names).host.environment = s.host.environment) ∨
      ∃ name ∈ names, s.writers w names = [name] ∧ Chosen name .tensorflow ∧
        s.host.environment.value? Environment.minLogLevel = none ∧
        (s.after w names).host.environment = s.host.environment ++ [(Environment.minLogLevel, Environment.errorsOnly)] := by
  induction names generalizing s with
  | nil => exact Or.inl ⟨rfl, rfl⟩
  | cons name names ih =>
    rw [after_cons]
    rcases environment_request w s name with hsame | ⟨hchosen, hnone, hchanged⟩
    · have hwriters : s.writers w (name :: names) = (s.request w name).1.writers w names := by
        rw [Scene.writers, if_pos hsame]
      have hrest := ih (s.request w name).1
      rw [hsame, ← hwriters] at hrest
      rcases hrest with hnobody | ⟨writer, hmem, hrest⟩
      · exact Or.inl hnobody
      · exact Or.inr ⟨writer, List.mem_cons_of_mem name hmem, hrest⟩
    · have hset : (s.request w name).1.host.environment.value? Environment.minLogLevel = some Environment.errorsOnly := by
        rw [hchanged, ← setDefault_of_missing hnone, Environment.value?_setDefault, if_pos rfl, hnone]
        rfl
      obtain ⟨hwriters, hafter⟩ := writers_of_set (w := w) names hset
      have hdiffer : (s.request w name).1.host.environment ≠ s.host.environment := by
        rw [hchanged]
        exact fun he => List.cons_ne_nil _ _ (List.append_right_eq_self.mp he)
      refine Or.inr ⟨name, List.mem_cons_self, ?_, hchosen, hnone, hafter.trans hchanged⟩
      rw [Scene.writers, if_neg hdiffer, hwriters]

/-- Requests for backends are answered one after the other: a name is understood where a configuration accepts it, TensorFlow is loaded
on a silenced host, and the environment is written at most once. -/
theorem requests_served (w : World LibraryCall) (s : Scene) (names : List String) : Served w s names := by
  refine ⟨fun earlier name _ _ => answered w (s.after w earlier) name, ?once, ?writer, ?environment, ?kept⟩
  case once =>
    rcases writers_cases w s names with ⟨hwriters, -⟩ | ⟨writer, -, hwriters, -⟩
    · rw [hwriters]
      exact Nat.zero_le 1
    · rw [hwriters]
      exact Nat.le_refl 1
  case writer =>
    intro name hname
    rcases writers_cases w s names with ⟨hwriters, -⟩ | ⟨writer, -, hwriters, hchosen, hnone, -⟩
    · rw [hwriters] at hname
      cases hname
    · rw [hwriters] at hname
      obtain rfl := List.mem_singleton.mp hname
      exact ⟨hchosen, hnone⟩
  case environment =>
    rcases writers_cases w s names with ⟨-, hafter⟩ | ⟨writer, -, -, -, hnone, hafter⟩
    · exact Or.inl hafter
    · exact Or.inr ⟨hnone, hafter⟩
  case kept =>
    intro v hv
    exact (writers_of_set names hv).2

/-- A world in which TensorFlow loads the second time. -/
def reluctant : World LibraryCall where
  answer := fun past _ => if past.length < 2 then .error (.raised ⟨"ImportError", .ordinary, []⟩) else .ok (.str "2.16.1")
  take := fun _ _ => .ok ()

/-- Of a name of no library, TensorFlow twice and Torch, the second request alone writes the environment. The third finds it written,
and loads what failed to load before. -/
theorem requests_served_reluctant :
    Scene.writers reluctant ⟨{}, []⟩ ["jax", "TensorFlow", "tensorflow", "TORCH"] = ["TensorFlow"] ∧
      Chosen "TensorFlow" .tensorflow ∧
      (Scene.after reluctant ⟨{}, []⟩ ["jax", "TensorFlow", "tensorflow"]).past.calls =
        [.tensorflow (.load (some "2")), .tensorflow (.load (some "2"))] ∧
      (Scene.request reluctant (Scene.after reluctant ⟨{}, []⟩ ["jax", "TensorFlow"]) "tensorflow").2.isOk = true := by
  have hwriters : Scene.writers reluctant ⟨{}, []⟩ ["jax", "TensorFlow", "tensorflow", "TORCH"] = ["TensorFlow"] := by decide +kernel
  have hserved := requests_served reluctant ⟨{}, []⟩ ["jax", "TensorFlow", "tensorflow", "TORCH"]
  exact ⟨hwriters, (hserved.writer "TensorFlow" (hwriters ▸ List.mem_singleton.mpr rfl)).1, rfl, rfl⟩

end Backend

end AccelProbe
