import AccelProbe.Proofs.Configuration.Conditions
import AccelProbe.Proofs.Configuration.Writing
import AccelProbe.Proofs.Toml.Depth
import AccelProbe.Proofs.Toml.Distinct

/-!
# What the order of a document's entries decides

Of a document that can be read, only the entry under the name of the configuration counts. Where it is a table, the order of its keys
decides at most which of several keys that are no fields is named in the refusal: the fields are bound by name, and they are looked
at in an order of their own. A document without the entry is loaded as one with an empty table.
-/

namespace AccelProbe

namespace Configuration

/-- The end of loading a table whose keys are fields. -/
inductive Concluded (given : Fields) : Except LoadFault Configuration → Prop where
  /-- Acceptable fields give the configuration in its normal form. -/
  | accepted (h : (ofFields given).Acceptable) : Concluded given (.ok (ofFields given).normalForm)
  /-- Any others are refused for the first condition that they violate. The message shows the value that violates it, or tells why it
  cannot be written. -/
  | refused {k : Condition} (h : k.First (ofFields given))
      (hm : (k.fault (ofFields given)).message =
        if (k.offending (ofFields given)).isWritable then .ok (k.wording (k.offending (ofFields given)).source)
        else .error (k.offending (ofFields given)).writingFault) :
      Concluded given (.error (.refused (.field (k.fault (ofFields given)))))

/-- Whether loading a table ends with the refusal of one of its keys that is no field. The configuration's name for itself is such a
key, and has a wording of its own. -/
def Misnamed (given : Fields) (loaded : Except LoadFault Configuration) : Prop :=
  ∃ f ∈ given, f.1 ∉ signature.names ∧
    loaded = .error (.refused (.arguments (if f.1 = "self" then .selfGiven signature.title else .unexpected signature.title f.1)))

/-- How two documents end whose tables have the entries of `given` in any order. -/
structure Alike (given : Fields) (first second : Except LoadFault Configuration) : Prop where
  /-- Where every key is a field, both end in the same way. -/
  fields : (∀ f ∈ given, f.1 ∈ signature.names) → first = second ∧ Concluded given first
  /-- Where some key is no field, both are refused for such a key, whatever the values are. -/
  misnamed : (∃ f ∈ given, f.1 ∉ signature.names) → Misnamed given first ∧ Misnamed given second

/-- What is loaded from the document at a path, by its entry under the name of the configuration. -/
structure Decided (files : FileSystem) (path : String) (root : Toml.Table) : Prop where
  /-- A table is loaded as any other with the same entries, whatever else is in the documents. -/
  reordered : ∀ {files' : FileSystem} {path' : String} {root' : Toml.Table} {given given' : Fields}, Holds files' path' root' →
    root.lookup tableName = some (.dictionary given) → root'.lookup tableName = some (.dictionary given') → given.Perm given' →
    Alike given (load files (.str path)) (load files' (.str path'))
  /-- Without the entry comes the standard configuration, as it does from any document with an empty table. -/
  missing : root.lookup tableName = none → load files (.str path) = .ok standard ∧
    ∀ {files' : FileSystem} {path' : String} {root' : Toml.Table}, Holds files' path' root' →
      root'.lookup tableName = some (.dictionary []) → load files' (.str path') = load files (.str path)
  /-- Anything but a table is refused by its kind, whether it counts as true or not. -/
  foreign : ∀ {v : Value}, root.lookup tableName = some v → (∀ given, v ≠ .dictionary given) →
    load files (.str path) = .error (.refused (.arguments (.notNamed qualifiedTitle v.kind)))

/-! ## Tables of fields -/

/-- The configuration of named arguments depends on what is found under each name. -/
theorem ofFields_congr {given given' : Fields} (h : ∀ name, given.lookup name = given'.lookup name) :
    ofFields given = ofFields given' := by
  have hvalue (name : String) : signature.value given name = signature.value given' name := by
    rw [Signature.value, Signature.value, h]
  simp only [ofFields, hvalue]

/-- The message about the first violated condition shows the value that violates it, where that can be written. -/
theorem Condition.First.message {c : Configuration} {k : Condition} (h : k.First c) :
    (k.fault c).message =
      if (k.offending c).isWritable then .ok (k.wording (k.offending c).source) else .error (k.offending c).writingFault := by
  by_cases hk : k = .shapeLength
  · subst hk
    obtain ⟨_, _, _, _, hviolated⟩ := h
    -- the only shape without a dimension is an empty one, which can be written
    have hempty : sizes? c.shape = some [] := by
      have htest := mt Condition.isViolated_eq_false_iff.mp hviolated
      cases hs : sizes? c.shape with
      | none => simp [Condition.isViolated, hs] at htest
      | some items => simpa [Condition.isViolated, hs] using htest
    have hwritable : (Condition.shapeLength.offending c).isWritable = true := by
      rw [Condition.offending, Condition.sizes, hempty]
      rfl
    rw [if_pos hwritable]
    exact Condition.message_of_isWritable hwritable
  · rw [Condition.message_fault c hk, Value.toSource]
    split <;> rfl

/-- A table of fields gives a configuration or is refused for the first condition that it violates. -/
theorem concluded_of_names {given : Fields} (h : ∀ f ∈ given, f.1 ∈ signature.names) :
    Concluded given ((make given).mapError .refused) := by
  rw [make_eq h]
  cases hv : (ofFields given).verdict.mapError Refusal.field with
  | ok c =>
    obtain ⟨hacceptable, rfl⟩ := Condition.verdict_eq_ok_iff.mp (mapError_eq_ok_iff.mp hv)
    exact .accepted hacceptable
  | error refusal =>
    obtain ⟨k, hfirst, rfl⟩ := Condition.mapError_verdict_eq_error_iff.mp hv
    exact .refused hfirst hfirst.message

/-- A table with a key that is no field is refused for such a key. -/
theorem misnamed_of_mem {given : Fields} {f : String × Value} (hf : f ∈ given) (hn : f.1 ∉ signature.names) :
    Misnamed given ((make given).mapError .refused) := by
  cases hs : signature.stranger? given with
  | none =>
    have hall := List.find?_eq_none.mp (Option.map_eq_none_iff.mp hs) f hf
    exact absurd (by simpa using hall) hn
  | some name =>
    obtain ⟨g, hg, rfl⟩ := Option.map_eq_some_iff.mp hs
    refine ⟨g, List.mem_of_find?_eq_some hg, by simpa using List.find?_some hg, ?_⟩
    rw [make, Signature.check, hs]
    rfl

/-! ## Documents -/

/-- No table of a document that lies at a path has a key twice. -/
theorem Holds.distinct {files : FileSystem} {path : String} {root : Toml.Table} (h : Holds files path root) :
    Toml.Distinct (.dictionary root) := by
  obtain ⟨_, _, _, _, hread⟩ := h
  exact Toml.distinct_of_read hread

/-- A document without the entry is loaded as the empty table is. -/
theorem load_of_lookup_none {files : FileSystem} {path : String} {root : Toml.Table} (h : Holds files path root)
    (hl : root.lookup tableName = none) : load files (.str path) = (make []).mapError .refused := by
  rw [load_of_holds h, ofDocument, hl]
  rfl

/-- What is loaded from a document that can be read depends on its entry under the name of the configuration alone. Tables with the same
entries in any order are loaded alike, a missing one as an empty one, and anything else is refused. -/
theorem load_decided {files : FileSystem} {path : String} {root : Toml.Table} (h : Holds files path root) :
    Decided files path root := by
  refine ⟨?reordered, ?missing, ?foreign⟩
  case reordered =>
    intro files' path' root' given given' h' hl hl' hperm
    have hdistinct := h.distinct.lookup hl
    have hsame : ofFields given = ofFields given' := ofFields_congr (hdistinct.lookup_eq_of_perm hperm)
    rw [load_of_holds h, load_of_holds h', ofDocument_of_lookup hl, ofDocument_of_lookup hl']
    constructor
    · intro hnames
      have hnames' : ∀ f ∈ given', f.1 ∈ signature.names := fun f hf => hnames f (hperm.mem_iff.mpr hf)
      refine ⟨?_, concluded_of_names hnames⟩
      rw [make_eq hnames, make_eq hnames', hsame]
    · rintro ⟨f, hf, hn⟩
      obtain ⟨g, hg, hgn, hrefused⟩ := misnamed_of_mem (hperm.mem_iff.mp hf) hn
      exact ⟨misnamed_of_mem hf hn, g, hperm.mem_iff.mpr hg, hgn, hrefused⟩
  case missing =>
    intro hl
    have hmade := load_of_lookup_none h hl
    refine ⟨?_, ?_⟩
    · rw [hmade, make_nil]
      rfl
    · intro files' path' root' h' hl'
      rw [hmade, load_of_holds h', ofDocument_of_lookup hl']
  case foreign =>
    intro v hl hv
    rw [load_of_holds h, ofDocument, hl, Option.getD_some]
    cases v with
    | dictionary given => exact absurd rfl (hv given)
    | _ => rfl

/-- A text that can be read lies at its path as the table that it is read as. -/
theorem holds_of_read {files : FileSystem} {path text : String} {root : Toml.Table}
    (hfile : files path = some (.file text.toUTF8)) (hread : Toml.read text = .ok root) : Holds files path root :=
  ⟨_, text, hfile, dif_pos (String.isValidUTF8 text), hread⟩

/-- The text of a document with these entries, each on a line of its own. -/
def entriesText (given : Fields) : String := Toml.documentText [] ['\n'] tableName given

/-- A document of entries that have a written form is read as the table of them. -/
theorem holds_entriesText {files : FileSystem} {path : String} {given : Fields}
    (hfile : files path = some (.file (entriesText given).toUTF8))
    (hgiven : ∀ entry ∈ given, Toml.IsBareName entry.1 ∧ Toml.HasForm entry.2 ∧ Toml.asRead entry.2 = entry.2)
    (hkeys : (given.map (·.1)).Nodup) : Holds files path [(tableName, .dictionary given)] := by
  have hread := @Toml.read_documentText [] ['\n'] nofun (Or.inr rfl) tableName (isBareName_of_all (by decide)) given
    (fun entry hm => ⟨(hgiven entry hm).1, (hgiven entry hm).2.1⟩) hkeys
  have hsame : given.map (fun entry => (entry.1, Toml.asRead entry.2)) = given := by
    refine (List.map_congr_left ?_).trans (List.map_id given)
    intro entry hm
    exact Prod.ext rfl (hgiven entry hm).2.2
  rw [hsame] at hread
  exact holds_of_read hfile hread

/-- Two documents with the entries of `flawed`, in their order and in the reverse one. -/
def flawedFiles : FileSystem := fun path =>
  if path = "forth.toml" then some (.file (entriesText flawed).toUTF8)
  else if path = "back.toml" then some (.file (entriesText flawed.reverse).toUTF8)
  else none

/-- The entries of `flawed` have a written form. -/
theorem hasForm_flawed : ∀ entry ∈ flawed, Toml.IsBareName entry.1 ∧ Toml.HasForm entry.2 ∧ Toml.asRead entry.2 = entry.2 := by
  have hname (name : String) (h : name ∈ signature.names) : Toml.IsBareName name := isBareName_of_mem_names h
  have hplain (s : String) (h : s.toList.all (fun c => c != '\x22' && c != '\\' && !Toml.isForbidden c) = true) :
      Toml.HasForm (.str s) := .scalar (.str (isPlain_of_all h))
  have hsizes : ∀ size ∈ [Value.int 2, .bool true], Toml.IsScalar size :=
    List.forall_mem_cons.mpr ⟨@Toml.IsScalar.int 2 (by decide), List.forall_mem_singleton.mpr (.bool true)⟩
  refine List.forall_mem_cons.mpr ⟨⟨hname _ (by decide), hplain _ (by decide), rfl⟩, ?_⟩
  refine List.forall_mem_cons.mpr ⟨⟨hname _ (by decide), .list hsizes, rfl⟩, ?_⟩
  refine List.forall_mem_cons.mpr ⟨⟨hname _ (by decide), hplain _ (by decide), rfl⟩, ?_⟩
  exact List.forall_mem_singleton.mpr ⟨hname _ (by decide), hplain _ (by decide), rfl⟩

/-- Both documents are refused for the dimensions, in the same words. -/
theorem load_decided_flawed :
    Holds flawedFiles "forth.toml" [(tableName, .dictionary flawed)] ∧
      Holds flawedFiles "back.toml" [(tableName, .dictionary flawed.reverse)] ∧
      load flawedFiles (.str "forth.toml") = load flawedFiles (.str "back.toml") ∧
      ∃ fault, load flawedFiles (.str "forth.toml") = .error fault ∧
        fault.message = .ok "Tensor dimensions must be positive integers. Got: [2, True]" := by
  have hforth : Holds flawedFiles "forth.toml" [(tableName, .dictionary flawed)] :=
    holds_entriesText (if_pos rfl) hasForm_flawed (by decide)
  have hback : Holds flawedFiles "back.toml" [(tableName, .dictionary flawed.reverse)] :=
    holds_entriesText rfl (fun entry hm => hasForm_flawed entry (List.mem_reverse.mp hm)) (by decide)
  have halike := (load_decided hforth).reordered hback rfl rfl (List.reverse_perm flawed).symm
  have hfirst : Condition.First (ofFields flawed) .dimensions := Condition.first_iff.mpr (by decide +kernel)
  obtain ⟨hsame, hconcluded⟩ := halike.fields (by decide)
  refine ⟨hforth, hback, hsame, ?_⟩
  generalize load flawedFiles (.str "forth.toml") = loaded at hconcluded
  cases hconcluded with
  | accepted h =>
    obtain ⟨sizes, hsizes, -, hpositive⟩ := h.shape
    have hflag : Value.bool true ∈ sizes := by
      rcases hsizes with hs | hs
      · exact Value.list.inj hs ▸ List.mem_cons_of_mem _ List.mem_cons_self
      · cases hs
    obtain ⟨n, hn, -⟩ := hpositive _ hflag
    cases hn
  | refused h hm =>
    obtain rfl := h.unique hfirst
    exact ⟨_, rfl, hm.trans rfl⟩

/-! ## Values that lie too deep in each other -/

/-- A text that cannot be read gives no configuration. -/
theorem load_of_read_error {files : FileSystem} {path text : String} {fault : Toml.Fault}
    (hfile : files path = some (.file text.toUTF8)) (hread : Toml.read text = .error fault) :
    load files (.str path) = .error (.document fault) := by
  have htext : String.fromUTF8? text.toUTF8 = some text := dif_pos (String.isValidUTF8 text)
  rw [load, locate, hfile]
  change ofContent text.toUTF8 = _
  rw [ofContent, htext]
  dsimp only
  rw [hread]

/-- A document without the entry, in which arrays lie in each other. -/
def arraysText (count : Nat) : String :=
  String.ofList (Toml.dotted [] "x" ++ '=' :: (List.replicate count '[' ++ List.replicate count ']'))

/-- A document whose entry has a table for the library, in which tables lie in each other. -/
def tablesText (count : Nat) : String :=
  String.ofList (Toml.dotted ([tableName, "backend"] ++ List.replicate count "a") "a" ++ '=' :: Toml.scalarText (.int (1 : Nat)))

/-- Arrays that lie too deep in each other keep a document from being read, though the entry is not concerned. -/
theorem load_arraysText {files : FileSystem} {path : String} {count : Nat} (hcount : Toml.depthStore < Toml.arraySteps * count)
    (hfile : files path = some (.file (arraysText count).toUTF8)) : load files (.str path) = .error (.document .tooDeep) := by
  have hname : ∀ name ∈ [] ++ ["x"], Toml.IsBareName name := List.forall_mem_singleton.mpr (isBareName_of_all (by decide))
  have hread : Toml.read (arraysText count) = .error .tooDeep := Toml.read_brackets hname hcount (by simp [List.mem_replicate])
  exact load_of_read_error hfile hread

/-- Tables that lie too deep in each other keep the message about their field from being written. -/
theorem load_tablesText {files : FileSystem} {path : String} {count : Nat} (hcount : Value.depthLimit ≤ count)
    (hfile : files path = some (.file (tablesText count).toUTF8)) :
    ∃ fault, load files (.str path) = .error (.refused (.field fault)) ∧ fault.message = .error .tooDeep := by
  have hnames : ∀ name ∈ [tableName, "backend"] ++ List.replicate count "a" ++ ["a"], Toml.IsBareName name := by
    intro name hm
    have hcases : name = tableName ∨ name = "backend" ∨ name = "a" := by
      simp only [List.mem_append, List.mem_cons, List.mem_replicate, List.not_mem_nil, or_false] at hm
      rcases hm with (hm | ⟨-, hm⟩) | hm
      · exact hm.imp_right Or.inl
      · exact Or.inr (Or.inr hm)
      · exact Or.inr (Or.inr hm)
    rcases hcases with rfl | rfl | rfl <;> exact isBareName_of_all (by decide)
  have hread : Toml.read (tablesText count) =
      .ok [(tableName, .dictionary [("backend", .dictionary (Toml.nest (List.replicate count "a") [("a", .int 1)]))])] :=
    Toml.read_dotted hnames (@Toml.IsScalar.int 1 (by decide))
  have hmake (t : Toml.Table) : make [("backend", .dictionary t)] = .error (.field (.unknownBackend (.dictionary t))) := by
    have hfield : "backend" ∈ signature.names := by decide
    have hfields : ∀ f ∈ [("backend", Value.dictionary t)], f.1 ∈ signature.names := List.forall_mem_singleton.mpr hfield
    rw [make_eq hfields]
    rfl
  have hlong : (Value.dictionary (Toml.nest (List.replicate count "a") [("a", .int 1)])).hasShortIntegers = true := by
    rw [Toml.hasShortIntegers_nest]
    decide
  have hdeep : ¬ (Value.dictionary (Toml.nest (List.replicate count "a") [("a", .int 1)])).depth ≤ Value.depthLimit := by
    have hone : (Value.dictionary [("a", .int 1)]).depth = 2 := by decide
    rw [Toml.depth_nest, List.length_replicate, hone]
    omega
  refine ⟨.unknownBackend (.dictionary (Toml.nest (List.replicate count "a") [("a", .int 1)])), ?_, ?_⟩
  · rw [load_of_holds (holds_of_read hfile hread), ofDocument_of_lookup rfl, hmake]
    rfl
  · rw [Fault.message, Value.toSource, Value.isWritable, hlong, decide_eq_false hdeep,
      Value.writingFault_of_hasShortIntegers hlong (Nat.lt_of_not_le hdeep)]
    rfl

/-- Two such documents. -/
def deepFiles : FileSystem := fun path =>
  if path = "arrays.toml" then some (.file (arraysText 1000).toUTF8)
  else if path = "tables.toml" then some (.file (tablesText 1199).toUTF8)
  else none

/-- The first document has no entry and does not give the standard configuration. The second one has no key but a field, and neither gives
a configuration nor is refused with a message about that field. -/
theorem load_deepFiles :
    load deepFiles (.str "arrays.toml") = .error (.document .tooDeep) ∧
      ∃ fault, load deepFiles (.str "tables.toml") = .error (.refused (.field fault)) ∧ fault.message = .error .tooDeep :=
  ⟨load_arraysText (by decide) rfl, load_tablesText (by decide) rfl⟩

end Configuration

end AccelProbe
