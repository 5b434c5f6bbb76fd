import AccelProbe.Configuration.Loading
import AccelProbe.Proofs.Configuration.Validation

/-!
# When a session has a configuration

`Unusable` lists why a document gives no configuration: there is none at its path, it cannot be read, or what it says of the fields
cannot be used. A session has no configuration exactly when it names such a document. A configuration that it does have is one in
normal form, from the document or the standard one, with what the command line asks for put in.
-/

namespace AccelProbe

namespace Configuration

/-- Whether a document lies at a path whose outermost table is `root`. -/
def Holds (files : FileSystem) (path : String) (root : Toml.Table) : Prop :=
  ∃ content text, files path = some (.file content) ∧ String.fromUTF8? content = some text ∧ Toml.read text = .ok root

/-- Why what a command line names gives no configuration. -/
inductive Unusable (files : FileSystem) : Value → Prop where
  /-- It is no text, so it names no document. -/
  | unnamed {v : Value} (hv : ∀ path, v ≠ .str path) : Unusable files v
  /-- Nothing lies at the path. -/
  | missing {path : String} (hp : files path = none) : Unusable files (.str path)
  /-- A directory lies at the path. -/
  | directory {path : String} (hp : files path = some .directory) : Unusable files (.str path)
  /-- The document is not UTF-8 text. -/
  | undecodable {path : String} {content : ByteArray} (hp : files path = some (.file content))
      (hc : String.fromUTF8? content = none) : Unusable files (.str path)
  /-- The document is not well formed. -/
  | malformed {path text : String} {content : ByteArray} {fault : Toml.Fault} (hp : files path = some (.file content))
      (hc : String.fromUTF8? content = some text) (ht : Toml.read text = .error fault) : Unusable files (.str path)
  /-- The document has something else than a table under the name of the configuration. -/
  | notATable {path : String} {root : Toml.Table} {v : Value} (hd : Holds files path root)
      (hl : root.lookup tableName = some v) (hv : ∀ given, v ≠ .dictionary given) : Unusable files (.str path)
  /-- The table has a name that is no field. -/
  | stranger {path name : String} {root : Toml.Table} {given : Fields} {v : Value} (hd : Holds files path root)
      (hl : root.lookup tableName = some (.dictionary given)) (hm : (name, v) ∈ given) (hn : name ∉ signature.names) :
      Unusable files (.str path)
  /-- A field of the table, or one that it leaves out, cannot be used. -/
  | invalid {path : String} {root : Toml.Table} {given : Fields} (hd : Holds files path root)
      (hl : root.lookup tableName = some (.dictionary given)) (hg : ¬ (ofFields given).Acceptable) : Unusable files (.str path)

/-! ## The fields of a table -/

/-- Named arguments are taken where each of them is a field: no field has to be given. -/
theorem check_eq_ok_iff {given : Fields} : signature.check given = .ok () ↔ ∀ f ∈ given, f.1 ∈ signature.names := by
  have hmissing : signature.missingFrom given = [] := by simp [Signature.missingFrom, signature, fields]
  unfold Signature.check
  rw [hmissing]
  cases hs : signature.stranger? given with
  | some name =>
    obtain ⟨f, hf, rfl⟩ := Option.map_eq_some_iff.mp hs
    have hn := List.find?_some hf
    have hmem := List.mem_of_find?_eq_some hf
    refine ⟨nofun, fun h => absurd (h f hmem) ?_⟩
    simpa using hn
  | none =>
    have hall := List.find?_eq_none.mp (Option.map_eq_none_iff.mp hs)
    constructor
    · intro _ f hf
      simpa using hall f hf
    · intro _
      rfl

/-- The configuration that comes of named arguments is in normal form. -/
theorem normal_of_make {given : Fields} {c : Configuration} (h : make given = .ok c) : c.Normal := by
  unfold make at h
  split at h
  · cases h
  · split at h
    · next hv =>
      cases h
      exact (acceptable_and_normal_of_validate hv).2
    · cases h

/-- A configuration comes of named arguments that are fields and acceptable. -/
theorem exists_make_iff {given : Fields} :
    (∃ c, make given = .ok c) ↔ (∀ f ∈ given, f.1 ∈ signature.names) ∧ (ofFields given).Acceptable := by
  rw [← check_eq_ok_iff]
  unfold make
  constructor
  · rintro ⟨c, h⟩
    split at h
    · cases h
    · next hcheck =>
      split at h
      · next hv => exact ⟨hcheck, (acceptable_and_normal_of_validate hv).1⟩
      · cases h
  · rintro ⟨hcheck, hacc⟩
    rw [hcheck, hacc.validate_eq]
    exact ⟨_, rfl⟩

/-! ## Documents -/

/-- The configuration of a document is in normal form. -/
theorem normal_of_ofDocument {root : Toml.Table} {c : Configuration} (h : ofDocument root = .ok c) : c.Normal := by
  unfold ofDocument at h
  split at h
  · next given _ =>
    cases hm : make given with
    | ok made =>
      rw [hm] at h
      cases h
      exact normal_of_make hm
    | error refusal => cases hm ▸ h
  · cases h

/-- A configuration that was loaded is in normal form. -/
theorem normal_of_load {files : FileSystem} {v : Value} {c : Configuration} (h : load files v = .ok c) : c.Normal := by
  unfold load at h
  cases hl : locate files v with
  | error fault => cases hl ▸ h
  | ok entry =>
    rw [hl] at h
    cases entry with
    | directory => cases h
    | file content =>
      change ofContent content = .ok c at h
      unfold ofContent at h
      split at h
      · cases h
      · split at h
        · cases h
        · exact normal_of_ofDocument h

/-- No named arguments give the standard configuration. -/
theorem make_nil : make [] = .ok standard := by
  have hstandard : ofFields [] = standard := rfl
  rw [make, check_eq_ok_iff.mpr (List.forall_mem_nil _), hstandard, standard_normal.validate_eq]

/-- The table of a document gives a configuration, or it does not fit. -/
theorem ofDocument_of_lookup {root : Toml.Table} {given : Fields} (hl : root.lookup tableName = some (.dictionary given)) :
    ofDocument root = (make given).mapError .refused := by
  rw [ofDocument, hl]
  rfl

/-- Named arguments that do not fit leave a document without a configuration. -/
theorem ofDocument_error_of_make {root : Toml.Table} {given : Fields} (hl : root.lookup tableName = some (.dictionary given))
    (hm : ¬ ∃ c, make given = .ok c) : ∃ fault, ofDocument root = .error fault := by
  rw [ofDocument_of_lookup hl]
  cases hg : make given with
  | ok c => exact absurd ⟨c, hg⟩ hm
  | error refusal => exact ⟨_, rfl⟩

/-- A document is loaded by its outermost table. -/
theorem load_of_holds {files : FileSystem} {path : String} {root : Toml.Table} (hd : Holds files path root) :
    load files (.str path) = ofDocument root := by
  obtain ⟨content, text, hp, hc, ht⟩ := hd
  have hl : load files (.str path) = ofContent content := by
    rw [load, locate, hp]
    rfl
  rw [hl, ofContent, hc]
  dsimp only
  rw [ht]

/-- What is no text names no document. -/
theorem load_error_of_unnamed {files : FileSystem} {v : Value} (hv : ∀ path, v ≠ .str path) :
    ∃ fault, load files v = .error fault := by
  have hl : ∃ fault, locate files v = .error fault := by
    cases v with
    | str path => exact absurd rfl (hv path)
    | int n =>
      simp only [locate]
      by_cases hgreat : fileNumbers.2 < n
      · exact ⟨_, if_pos hgreat⟩
      · rw [if_neg hgreat]
        by_cases hsmall : n < fileNumbers.1
        · exact ⟨_, if_pos hsmall⟩
        · exact ⟨_, if_neg hsmall⟩
    | _ => exact ⟨_, rfl⟩
  obtain ⟨fault, hl⟩ := hl
  rw [load, hl]
  exact ⟨fault, rfl⟩

/-- A document whose table of the configuration is well formed gives a configuration, unless it is unusable. -/
theorem unusable_of_ofDocument {files : FileSystem} {path : String} {root : Toml.Table} {fault : LoadFault}
    (hd : Holds files path root) (h : ofDocument root = .error fault) : Unusable files (.str path) := by
  cases hl : root.lookup tableName with
  | none =>
    rw [ofDocument, hl, Option.getD_none] at h
    cases (congrArg (Except.mapError LoadFault.refused) make_nil).symm.trans h
  | some v =>
    by_cases hv : ∀ given, v ≠ .dictionary given
    · exact .notATable hd hl hv
    simp only [Classical.not_forall, Classical.not_not] at hv
    obtain ⟨given, rfl⟩ := hv
    by_cases hn : ∀ f ∈ given, f.1 ∈ signature.names
    · refine .invalid hd hl ?_
      intro hacc
      obtain ⟨c, hc⟩ := exists_make_iff.mpr ⟨hn, hacc⟩
      rw [ofDocument_of_lookup hl, hc] at h
      cases h
    · simp only [Classical.not_forall] at hn
      obtain ⟨f, hf, hn⟩ := hn
      exact .stranger hd hl hf hn

/-- What no configuration can be loaded of is unusable. -/
theorem unusable_of_load_error {files : FileSystem} {v : Value} {fault : LoadFault} (h : load files v = .error fault) :
    Unusable files v := by
  by_cases hv : ∀ path, v ≠ .str path
  · exact .unnamed hv
  simp only [Classical.not_forall, Classical.not_not] at hv
  obtain ⟨path, rfl⟩ := hv
  cases hp : files path with
  | none => exact .missing hp
  | some entry =>
    cases entry with
    | directory => exact .directory hp
    | file content =>
      cases hc : String.fromUTF8? content with
      | none => exact .undecodable hp hc
      | some text =>
        cases ht : Toml.read text with
        | error fault => exact .malformed hp hc ht
        | ok root =>
          have hd : Holds files path root := ⟨content, text, hp, hc, ht⟩
          exact unusable_of_ofDocument hd (load_of_holds hd ▸ h)

/-- Of what is unusable no configuration can be loaded. -/
theorem Unusable.load_error {files : FileSystem} {v : Value} (hu : Unusable files v) : ∃ fault, load files v = .error fault := by
  cases hu with
  | unnamed hv => exact load_error_of_unnamed hv
  | missing hp =>
    rw [load, locate, hp]
    exact ⟨_, rfl⟩
  | directory hp =>
    rw [load, locate, hp]
    exact ⟨_, rfl⟩
  | undecodable hp hc =>
    rw [load, locate, hp]
    change ∃ fault, ofContent _ = .error fault
    rw [ofContent, hc]
    exact ⟨_, rfl⟩
  | malformed hp hc ht =>
    rw [load, locate, hp]
    change ∃ fault, ofContent _ = .error fault
    rw [ofContent, hc]
    dsimp only
    rw [ht]
    exact ⟨_, rfl⟩
  | @notATable path root v hd hl hv =>
    rw [load_of_holds hd, ofDocument, hl, Option.getD_some]
    cases v with
    | dictionary given => exact absurd rfl (hv given)
    | _ => exact ⟨_, rfl⟩
  | stranger hd hl hm hn =>
    rw [load_of_holds hd]
    exact ofDocument_error_of_make hl fun hc => hn ((exists_make_iff.mp hc).1 _ hm)
  | invalid hd hl hg =>
    rw [load_of_holds hd]
    exact ofDocument_error_of_make hl fun hc => hg (exists_make_iff.mp hc).2

/-- No configuration can be loaded of exactly what is unusable. -/
theorem exists_load_error_iff {files : FileSystem} {v : Value} :
    (∃ fault, load files v = .error fault) ↔ Unusable files v := by
  constructor
  · rintro ⟨fault, h⟩
    exact unusable_of_load_error h
  · intro hu
    exact hu.load_error

/-! ## The configuration of a command line -/

/-- A session has no configuration exactly when its command line names what is unusable. -/
theorem exists_build_error_iff {files : FileSystem} {args : Arguments} :
    (∃ fault, build files args = .error fault) ↔ args.config.isNull = false ∧ Unusable files args.config := by
  rw [← exists_load_error_iff, build]
  cases args.config.isNull with
  | true => simp
  | false =>
    cases load files args.config with
    | ok c => simp [Except.map]
    | error fault => simp [Except.map]

/-- The configuration of a session is that of the document it names, or else the standard one, with what the command line asks for
put in; before that, it is in normal form. -/
theorem base_of_build {files : FileSystem} {args : Arguments} {c : Configuration} (h : build files args = .ok c) :
    ∃ base, base.Normal ∧ c = base.override args ∧
      if args.config.isNull then base = standard else load files args.config = .ok base := by
  unfold build at h
  cases hn : args.config.isNull with
  | true =>
    rw [hn] at h
    cases h
    exact ⟨standard, standard_normal, rfl, rfl⟩
  | false =>
    rw [hn] at h
    cases hl : load files args.config with
    | ok base =>
      rw [hl] at h
      cases h
      exact ⟨base, normal_of_load hl, rfl, by simp⟩
    | error fault =>
      rw [hl] at h
      cases h

end Configuration

end AccelProbe
