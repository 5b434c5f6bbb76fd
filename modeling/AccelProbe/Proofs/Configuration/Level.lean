import AccelProbe.Proofs.Basic
import AccelProbe.Proofs.Configuration.Conditions

/-!
# Documents that differ in the log level

The log level is the last field that is looked at, and nothing else is looked at differently because of it. So two documents whose
fields differ in the log level only, where both name one, are refused for the same fault or give configurations that differ in the log
level only, and the command line changes nothing of that.
-/

namespace AccelProbe

namespace Configuration

/-- The name of the field with the log level. -/
def levelField : String := "log_level"

/-- Whether two lists of fields differ in the log level only: both name a level or leave it to its default. -/
structure Relevelled (given given' : Fields) : Prop where
  /-- All other fields are the same, in the same order. -/
  others : given'.filter (·.1 != levelField) = given.filter (·.1 != levelField)
  /-- The first ones name a level. -/
  level : Condition.logLevel.Holds (ofFields given)
  /-- So do the others. -/
  level' : Condition.logLevel.Holds (ofFields given')

/-- Whether two file systems hold the same at a path but for the log level of the configuration. -/
inductive SameButLevel (files files' : FileSystem) : Value → Prop where
  /-- The same lies there, if anything. -/
  | same {v : Value} (h : locate files' v = locate files v) : SameButLevel files files' v
  /-- There are documents whose fields differ in the log level only. -/
  | documents {path : String} {root root' : Toml.Table} {given given' : Fields} (hd : Holds files path root)
      (hd' : Holds files' path root') (hl : (root.lookup tableName).getD (.dictionary []) = .dictionary given)
      (hl' : (root'.lookup tableName).getD (.dictionary []) = .dictionary given') (hg : Relevelled given given') :
      SameButLevel files files' (.str path)

/-- Whether two outcomes are the same fault, or configurations that differ in the log level only. -/
def LevelApart {ε : Type} (x x' : Except ε Configuration) : Prop :=
  (∃ e, x = .error e ∧ x' = .error e) ∨ ∃ c level, x = .ok c ∧ x' = .ok { c with logLevel := level }

section

variable {ε δ : Type} {x x' : Except ε Configuration}

theorem LevelApart.refl (x : Except ε Configuration) : LevelApart x x := by
  cases x with
  | error e => exact Or.inl ⟨e, rfl, rfl⟩
  | ok c => exact Or.inr ⟨c, c.logLevel, rfl, rfl⟩

theorem LevelApart.mapError (h : LevelApart x x') (f : ε → δ) : LevelApart (x.mapError f) (x'.mapError f) := by
  rcases h with ⟨e, rfl, rfl⟩ | ⟨c, level, rfl, rfl⟩
  · exact Or.inl ⟨f e, rfl, rfl⟩
  · exact Or.inr ⟨c, level, rfl, rfl⟩

/-- What the command line asks for has nothing to do with the log level. -/
theorem LevelApart.override (h : LevelApart x x') (args : Arguments) :
    LevelApart (x.map fun c => c.override args) (x'.map fun c => c.override args) := by
  rcases h with ⟨e, rfl, rfl⟩ | ⟨c, level, rfl, rfl⟩
  · exact Or.inl ⟨e, rfl, rfl⟩
  · have hlevel : Configuration.override { c with logLevel := level } args = { c.override args with logLevel := level } := by
      unfold Configuration.override
      cases args.backend.isNull <;> cases args.environment.isTruthy <;> cases args.compute.isTruthy <;> rfl
    refine Or.inr ⟨c.override args, level, rfl, ?_⟩
    rw [← hlevel]
    rfl

end

/-! ## The validation -/

/-- A validation looks at the log level last, so another one that is a level changes nothing else. -/
theorem verdict_relevelled {c : Configuration} {v : Value} (hc : Condition.logLevel.Holds c)
    (hv : Condition.logLevel.Holds { c with logLevel := v }) : LevelApart c.verdict (verdict { c with logLevel := v }) := by
  have hnamed : ∀ {c : Configuration}, Condition.logLevel.Holds c → ∃ level, logLevel? c.logLevel = some level := by
    rintro c ⟨s, hs, hm⟩
    exact ⟨Text.upper s, logLevel?_eq_some_iff.mpr ⟨s, hs, rfl, hm⟩⟩
  obtain ⟨level, hlevel⟩ := hnamed hc
  obtain ⟨level', hlevel'⟩ := hnamed hv
  unfold verdict validate
  dsimp only
  cases backend? c.backend with
  | none => exact Or.inl ⟨_, rfl, rfl⟩
  | some library =>
    dsimp only
    cases sizes? c.shape with
    | none => exact Or.inl ⟨_, rfl, rfl⟩
    | some sizes =>
      dsimp only [validateRest]
      cases shapeFault? sizes with
      | some fault => exact Or.inl ⟨fault, rfl, rfl⟩
      | none =>
        -- the numbers are looked at beside either log level
        have hnumber : ∀ level, numberFault? { c with backend := .str library.key, shape := .tuple sizes, logLevel := level } =
            numberFault? c := fun _ => rfl
        have hnumber₀ : numberFault? { c with backend := .str library.key, shape := .tuple sizes } = numberFault? c := rfl
        rw [hnumber₀, hnumber]
        cases numberFault? c with
        | some fault => exact Or.inl ⟨fault, rfl, rfl⟩
        | none =>
          dsimp only at hlevel' ⊢
          rw [hlevel, hlevel']
          exact Or.inr ⟨_, .str level', rfl, rfl⟩

/-! ## The fields of a table -/

section

variable {given given' : Fields}

/-- A field is found among the others as it is among all. -/
theorem lookup_filter_ne {name other : String} (h : name ≠ other) (given : Fields) :
    (given.filter (·.1 != other)).lookup name = given.lookup name := by
  induction given with
  | nil => rfl
  | cons f given ih =>
    obtain ⟨key, v⟩ := f
    by_cases hk : key = other
    · have hn : (name == key) = false := beq_eq_false_iff_ne.mpr fun hx => h (hx.trans hk)
      rw [List.filter_cons_of_neg (by simp [hk]), List.lookup_cons, hn]
      exact ih
    · rw [List.filter_cons_of_pos (by simp [hk]), List.lookup_cons, List.lookup_cons, ih]

/-- A field other than the log level has the same value. -/
theorem Relevelled.value_eq (h : Relevelled given given') {name : String} (hn : name ≠ levelField) :
    signature.value given' name = signature.value given name := by
  rw [Signature.value, Signature.value, ← lookup_filter_ne hn given', h.others, lookup_filter_ne hn given]

theorem Relevelled.ofFields_eq (h : Relevelled given given') :
    ofFields given' = { ofFields given with logLevel := (ofFields given').logLevel } := by
  have hvalue : ∀ name, name ≠ levelField → signature.value given' name = signature.value given name := fun name => h.value_eq
  simp only [ofFields]
  rw [hvalue "backend" (by decide), hvalue "shape" (by decide), hvalue "device_index" (by decide),
    hvalue "report_environment" (by decide), hvalue "check_compute" (by decide), hvalue "compute_size" (by decide)]

/-- The fields are taken or refused alike. -/
theorem Relevelled.check_eq (h : Relevelled given given') : signature.check given' = signature.check given := by
  have hmissing : ∀ given, signature.missingFrom given = [] := fun given => by simp [Signature.missingFrom, signature, fields]
  -- the log level is a field, so the first stranger is among the others
  have hstranger : ∀ given, signature.stranger? given = signature.stranger? (given.filter (·.1 != levelField)) := by
    intro given
    rw [Signature.stranger?, Signature.stranger?, List.find?_filter]
    refine congrArg (Option.map (·.1)) (congrArg (List.find? · given) ?_)
    funext f
    by_cases hf : f.1 = levelField
    · rw [hf]
      rfl
    · simp [hf]
  rw [Signature.check, Signature.check, hmissing, hmissing, hstranger given', h.others, ← hstranger given]

/-- Fields that differ in the log level give configurations that do. -/
theorem Relevelled.make (h : Relevelled given given') : LevelApart (make given) (Configuration.make given') := by
  have hcheck := h.check_eq
  cases hgiven : signature.check given with
  | error fault =>
    refine Or.inl ⟨.arguments fault, ?_, ?_⟩
    · rw [Configuration.make, hgiven]
    · rw [Configuration.make, hcheck, hgiven]
  | ok =>
    rw [hgiven] at hcheck
    rw [make_eq (check_eq_ok_iff.mp hgiven), make_eq (check_eq_ok_iff.mp hcheck), h.ofFields_eq]
    have hlevel' : Condition.logLevel.Holds { ofFields given with logLevel := (ofFields given').logLevel } := by
      rw [← h.ofFields_eq]
      exact h.level'
    exact (verdict_relevelled h.level hlevel').mapError Refusal.field

end

/-! ## Documents -/

/-- Documents that differ in the log level give configurations that do. -/
theorem SameButLevel.load {files files' : FileSystem} {v : Value} (h : SameButLevel files files' v) :
    LevelApart (load files v) (Configuration.load files' v) := by
  have htable : ∀ {root : Toml.Table} {given : Fields}, (root.lookup tableName).getD (.dictionary []) = .dictionary given →
      ofDocument root = (make given).mapError .refused := by
    intro root given hl
    rw [ofDocument, hl]
  cases h with
  | same hsame =>
    rw [Configuration.load, Configuration.load, hsame]
    exact LevelApart.refl _
  | documents hd hd' hl hl' hg =>
    rw [load_of_holds hd, load_of_holds hd', htable hl, htable hl']
    exact hg.make.mapError LoadFault.refused

/-- So do such documents with what the command line asks for. -/
theorem SameButLevel.build {files files' : FileSystem} {args : Arguments}
    (h : args.config.isNull = false → SameButLevel files files' args.config) :
    LevelApart (build files args) (Configuration.build files' args) := by
  unfold Configuration.build
  cases hnull : args.config.isNull with
  | true => exact LevelApart.refl _
  | false => exact (h hnull).load.override args

end Configuration

end AccelProbe
