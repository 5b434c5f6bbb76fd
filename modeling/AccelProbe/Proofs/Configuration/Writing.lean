import AccelProbe.Proofs.Configuration.Loading
import AccelProbe.Proofs.Toml.Documents

/-!
# Loading what was written

Some fields of a configuration are written into a document, in any order. The configuration that is loaded from it has these fields in
their normal form and the defaults for the others. That needs every field to be read under the name and as the kind of value with
which it was written.
-/

namespace AccelProbe

namespace Configuration

/-- Named values in the order of their names. -/
def pick (names : List String) (value : String → Value) : Fields := names.map fun name => (name, value name)

/-- The fields of these names, in the same order. -/
def chosen (c : Configuration) (names : List String) : Fields := pick names fun name => (c.fields.lookup name).getD .null

/-- Whether no integer of a configuration has more digits than can be read. -/
def IsShort (c : Configuration) : Prop := ∀ field ∈ c.fields, field.2.hasShortIntegers = true

/-! ## Fields that can be written -/

/-- Characters that a change of letter case makes plain were plain, if it keeps all others. -/
theorem isPlain_of_flatMap {change : Char → List Char} (hkeeps : ∀ c, ¬ Toml.IsPlain c → change c = [c]) {cs : List Char}
    (h : ∀ c ∈ cs.flatMap change, Toml.IsPlain c) : ∀ c ∈ cs, Toml.IsPlain c := by
  intro c hc
  refine Classical.byContradiction fun hnot => hnot (h c ?_)
  rw [List.mem_flatMap]
  exact ⟨c, hc, by rw [hkeeps c hnot]; exact List.mem_singleton.mpr rfl⟩

/-- A character that is not plain has no letter case. -/
theorem caseless_of_not_isPlain {c : Char} (h : ¬ Toml.IsPlain c) : Text.lowerChar c = [c] ∧ Text.upperChar c = [c] := by
  have hcode : c.toNat < 65 ∨ c.toNat = 92 ∨ c.toNat = 127 := by
    by_cases hquote : c = '\x22'
    · exact Or.inl (by rw [hquote]; decide)
    · by_cases hslash : c = '\\'
      · exact Or.inr (Or.inl (by rw [hslash]; decide))
      · have hforbidden : Toml.isForbidden c = true := by
          cases hf : Toml.isForbidden c with
          | true => rfl
          | false => exact absurd ⟨hquote, hslash, hf⟩ h
        simp only [Toml.isForbidden, Bool.and_eq_true, Bool.or_eq_true, decide_eq_true_eq, beq_iff_eq] at hforbidden
        omega
  have hascii : c.toNat < 128 := by omega
  have hlower : ¬ (c.val ≥ 'A'.val ∧ c.val ≤ 'Z'.val) := by
    rintro ⟨hfirst, hlast⟩
    have hfirst : 65 ≤ c.toNat := UInt32.le_iff_toNat_le.mp hfirst
    have hlast : c.toNat ≤ 90 := UInt32.le_iff_toNat_le.mp hlast
    omega
  have hupper : ¬ ('a'.val ≤ c.val ∧ c.val ≤ 'z'.val) := by
    rintro ⟨hfirst, hlast⟩
    have hfirst : 97 ≤ c.toNat := UInt32.le_iff_toNat_le.mp hfirst
    have hlast : c.toNat ≤ 122 := UInt32.le_iff_toNat_le.mp hlast
    omega
  have hdown : c.toLower = c := dif_neg hlower
  have hup : c.toUpper = c := dif_neg hupper
  rw [Text.lowerChar, if_pos hascii, Text.upperChar, if_pos hascii, hdown, hup]
  exact ⟨rfl, rfl⟩

/-- A text is plain where it is a plain one in lower case. -/
theorem isPlain_of_lower {s t : String} (h : Text.lower s = t) (ht : ∀ c ∈ t.toList, Toml.IsPlain c) :
    ∀ c ∈ s.toList, Toml.IsPlain c := by
  refine isPlain_of_flatMap (fun c hc => (caseless_of_not_isPlain hc).1) ?_
  rw [← h, Text.lower, String.toList_ofList] at ht
  exact ht

/-- So is a text that is a plain one in upper case. -/
theorem isPlain_of_upper {s t : String} (h : Text.upper s = t) (ht : ∀ c ∈ t.toList, Toml.IsPlain c) : ∀ c ∈ s.toList, Toml.IsPlain c := by
  refine isPlain_of_flatMap (fun c hc => (caseless_of_not_isPlain hc).2) ?_
  rw [← h, Text.upper, String.toList_ofList] at ht
  exact ht

/-- A text is plain where none of its characters is a quote, a backslash or forbidden. -/
theorem isPlain_of_all {t : String}
    (h : t.toList.all (fun c => c != '\x22' && c != '\\' && !Toml.isForbidden c) = true) : ∀ c ∈ t.toList, Toml.IsPlain c := by
  intro c hc
  have hall := List.all_eq_true.mp h c hc
  simp only [Bool.and_eq_true, bne_iff_ne, ne_eq, Bool.not_eq_true'] at hall
  exact ⟨hall.1.1, hall.1.2, hall.2⟩

/-- The names of the libraries and of the log levels are plain. -/
theorem isPlain_key (l : Library) : ∀ c ∈ l.key.toList, Toml.IsPlain c := by
  refine isPlain_of_all ?_
  cases l <;> decide

theorem isPlain_of_mem_choices {level : String} (h : level ∈ Level.choices) : ∀ c ∈ level.toList, Toml.IsPlain c := by
  have hall : ∀ level ∈ Level.choices,
      level.toList.all (fun c => c != '\x22' && c != '\\' && !Toml.isForbidden c) = true := by decide
  exact isPlain_of_all (hall level h)

/-- A short integer from zero on can be written. -/
theorem isScalar_of_isIntegerFrom {least : Int} (hleast : 0 ≤ least) {v : Value} (h : IsIntegerFrom least v)
    (hshort : v.hasShortIntegers = true) : Toml.IsScalar v := by
  obtain ⟨n, rfl, hn⟩ := h
  obtain ⟨m, rfl⟩ := Int.eq_ofNat_of_zero_le (Int.le_trans hleast hn)
  exact .int hshort

/-- Every field of a short acceptable configuration can be written. -/
theorem Acceptable.hasForm {c : Configuration} (hc : c.Acceptable) (hshort : c.IsShort) : ∀ field ∈ c.fields, Toml.HasForm field.2 := by
  obtain ⟨text, l, hbackend, hlower⟩ := hc.backend
  obtain ⟨sizes, hshape, -, hsizes⟩ := hc.shape
  obtain ⟨environment, henvironment⟩ := hc.reportEnvironment
  obtain ⟨compute, hcompute⟩ := hc.checkCompute
  obtain ⟨level, hlevel, hupper⟩ := hc.logLevel
  have hshapeForm : Toml.HasForm c.shape := by
    have hshapeShort : c.shape.hasShortIntegers = true := hshort ("shape", c.shape) (by simp [fields])
    have hscalars : Value.haveShortIntegers sizes = true → ∀ size ∈ sizes, Toml.IsScalar size := by
      intro hall size hm
      rw [Value.haveShortIntegers_eq_all] at hall
      exact isScalar_of_isIntegerFrom (by decide) (hsizes size hm) (List.all_eq_true.mp hall size hm)
    rcases hshape with hlist | htuple
    · rw [hlist] at hshapeShort ⊢
      exact .list (hscalars hshapeShort)
    · rw [htuple] at hshapeShort ⊢
      exact .tuple (hscalars hshapeShort)
  have hindexForm : Toml.HasForm c.deviceIndex := by
    refine .scalar (isScalar_of_isIntegerFrom (Int.le_refl 0) hc.deviceIndex ?_)
    exact hshort ("device_index", c.deviceIndex) (by simp [fields])
  have hsizeForm : Toml.HasForm c.computeSize := by
    refine .scalar (isScalar_of_isIntegerFrom (by decide) hc.computeSize ?_)
    exact hshort ("compute_size", c.computeSize) (by simp [fields])
  intro field hm
  simp only [fields, List.mem_cons, List.not_mem_nil, or_false] at hm
  rcases hm with rfl | rfl | rfl | rfl | rfl | rfl | rfl
  · exact hbackend ▸ .scalar (.str (isPlain_of_lower hlower (isPlain_key l)))
  · exact hshapeForm
  · exact hindexForm
  · exact henvironment ▸ .scalar (.bool environment)
  · exact hcompute ▸ .scalar (.bool compute)
  · exact hsizeForm
  · exact hlevel ▸ .scalar (.str (isPlain_of_upper rfl (isPlain_of_mem_choices hupper)))

/-- The names of the fields stand without quotes, and so does that of their table. -/
theorem isBareName_of_all {name : String} (h : (!name.isEmpty && name.toList.all Toml.isBare) = true) : Toml.IsBareName name := by
  obtain ⟨hne, hall⟩ := Bool.and_eq_true_iff.mp h
  refine ⟨?_, List.all_eq_true.mp hall⟩
  rintro rfl
  exact absurd hne (by decide)

theorem isBareName_of_mem_names {name : String} (h : name ∈ signature.names) : Toml.IsBareName name := by
  have hall : ∀ name ∈ signature.names, (!name.isEmpty && name.toList.all Toml.isBare) = true := by decide
  exact isBareName_of_all (hall name h)

/-- A field is found under its name. -/
theorem exists_lookup_fields (c : Configuration) {name : String} (h : name ∈ signature.names) :
    ∃ v, c.fields.lookup name = some v ∧ (name, v) ∈ c.fields := by
  simp only [signature, Signature.names, fields, List.map_cons, List.map_nil, List.mem_cons, List.not_mem_nil, or_false] at h
  rcases h with rfl | rfl | rfl | rfl | rfl | rfl | rfl <;> exact ⟨_, rfl, by simp [fields]⟩

/-! ## Fields that were picked -/

/-- A value that was picked is found under its name. -/
theorem lookup_pick (names : List String) (value : String → Value) (name : String) :
    (pick names value).lookup name = if name ∈ names then some (value name) else none := by
  induction names with
  | nil => rfl
  | cons other names ih =>
    rw [pick, List.map_cons, List.lookup_cons]
    by_cases heq : name = other
    · subst heq
      rw [beq_self_eq_true, if_pos List.mem_cons_self]
    · rw [beq_false_of_ne heq]
      refine ih.trans ?_
      by_cases hm : name ∈ names
      · rw [if_pos hm, if_pos (List.mem_cons_of_mem other hm)]
      · rw [if_neg hm, if_neg fun hx => (List.mem_cons.mp hx).elim heq hm]

/-- The configuration with the picked fields and the defaults for the others. -/
theorem ofFields_pick (names : List String) (value : String → Value) :
    ofFields (pick names value) =
      { backend := if "backend" ∈ names then value "backend" else standard.backend
        shape := if "shape" ∈ names then value "shape" else standard.shape
        deviceIndex := if "device_index" ∈ names then value "device_index" else standard.deviceIndex
        reportEnvironment := if "report_environment" ∈ names then value "report_environment" else standard.reportEnvironment
        checkCompute := if "check_compute" ∈ names then value "check_compute" else standard.checkCompute
        computeSize := if "compute_size" ∈ names then value "compute_size" else standard.computeSize
        logLevel := if "log_level" ∈ names then value "log_level" else standard.logLevel } := by
  have hvalue : ∀ name, signature.value (pick names value) name =
      if name ∈ names then value name else ((signature.parameters.lookup name).join).getD .null := by
    intro name
    rw [Signature.value, lookup_pick]
    by_cases hm : name ∈ names
    · rw [if_pos hm, if_pos hm]
    · rw [if_neg hm, if_neg hm]
  simp only [ofFields, hvalue]
  rfl

/-- What is read where the fields of an acceptable configuration were written is acceptable, and its normal form has the fields of
theirs. -/
theorem Acceptable.ofFields_asRead {c : Configuration} (hc : c.Acceptable) (names : List String) :
    (ofFields (pick names fun name => Toml.asRead ((c.fields.lookup name).getD .null))).Acceptable ∧
      (ofFields (pick names fun name => Toml.asRead ((c.fields.lookup name).getD .null))).normalForm =
        ofFields (c.normalForm.chosen names) := by
  obtain ⟨text, l, hbackend, -⟩ := hc.backend
  obtain ⟨sizes, hshape, hsizes⟩ := hc.shape
  obtain ⟨index, hindex, -⟩ := hc.deviceIndex
  obtain ⟨size, hsize, -⟩ := hc.computeSize
  obtain ⟨environment, henvironment⟩ := hc.reportEnvironment
  obtain ⟨compute, hcompute⟩ := hc.checkCompute
  obtain ⟨level, hlevel, -⟩ := hc.logLevel
  have hstandard := standard_normal.acceptable
  -- only the shape is read as another value than the one that was written
  have hreadBackend : Toml.asRead ((c.fields.lookup "backend").getD .null) = c.backend := congrArg Toml.asRead hbackend |>.trans hbackend.symm
  have hreadShape : Toml.asRead ((c.fields.lookup "shape").getD .null) = .list sizes := by
    rcases hshape with hlist | htuple
    · exact congrArg Toml.asRead hlist
    · exact congrArg Toml.asRead htuple
  have hreadIndex : Toml.asRead ((c.fields.lookup "device_index").getD .null) = c.deviceIndex :=
    congrArg Toml.asRead hindex |>.trans hindex.symm
  have hreadEnvironment : Toml.asRead ((c.fields.lookup "report_environment").getD .null) = c.reportEnvironment :=
    congrArg Toml.asRead henvironment |>.trans henvironment.symm
  have hreadCompute : Toml.asRead ((c.fields.lookup "check_compute").getD .null) = c.checkCompute :=
    congrArg Toml.asRead hcompute |>.trans hcompute.symm
  have hreadSize : Toml.asRead ((c.fields.lookup "compute_size").getD .null) = c.computeSize :=
    congrArg Toml.asRead hsize |>.trans hsize.symm
  have hreadLevel : Toml.asRead ((c.fields.lookup "log_level").getD .null) = c.logLevel := congrArg Toml.asRead hlevel |>.trans hlevel.symm
  rw [ofFields_pick, hreadBackend, hreadShape, hreadIndex, hreadEnvironment, hreadCompute, hreadSize, hreadLevel]
  constructor
  · constructor
    · dsimp only
      split
      · exact hc.backend
      · exact hstandard.backend
    · dsimp only
      split
      · exact ⟨sizes, Or.inl rfl, hsizes⟩
      · exact hstandard.shape
    · dsimp only
      split
      · exact hc.deviceIndex
      · exact hstandard.deviceIndex
    · dsimp only
      split
      · exact hc.computeSize
      · exact hstandard.computeSize
    · dsimp only
      split
      · exact hc.reportEnvironment
      · exact hstandard.reportEnvironment
    · dsimp only
      split
      · exact hc.checkCompute
      · exact hstandard.checkCompute
    · dsimp only
      split
      · exact hc.logLevel
      · exact hstandard.logLevel
  · have hbackendForm : changeText Text.lower (if "backend" ∈ names then c.backend else standard.backend) =
        if "backend" ∈ names then changeText Text.lower c.backend else standard.backend := apply_ite _ _ _ _
    have hlevelForm : changeText Text.upper (if "log_level" ∈ names then c.logLevel else standard.logLevel) =
        if "log_level" ∈ names then changeText Text.upper c.logLevel else standard.logLevel := apply_ite _ _ _ _
    have hshapeForm : Value.tuple ((sizes? (if "shape" ∈ names then .list sizes else standard.shape)).getD []) =
        if "shape" ∈ names then .tuple ((sizes? c.shape).getD []) else standard.shape := by
      rw [sizes?_eq_some_iff.mpr hshape]
      split <;> rfl
    rw [normalForm]
    dsimp only
    rw [hbackendForm, hlevelForm, hshapeForm, chosen, ofFields_pick]
    rfl

/-- The text of some fields of a configuration, in the order of these names: a heading, and then a line for each of them. Blanks may
stand behind the commas in the shape, and a line end at the end. -/
def documentText (c : Configuration) (names : List String) (gap ending : List Char) : String :=
  Toml.documentText gap ending tableName (c.chosen names)

/-- The document of some fields is read as the table of these fields. -/
theorem Acceptable.read_documentText {c : Configuration} (hc : c.Acceptable) (hshort : c.IsShort) {names : List String}
    (hnames : ∀ name ∈ names, name ∈ signature.names) (hdistinct : names.Nodup) {gap ending : List Char}
    (hgap : ∀ blank ∈ gap, blank = ' ' ∨ blank = '\t') (hending : ending = [] ∨ ending = ['\n']) :
    Toml.read (c.documentText names gap ending) =
      .ok [(tableName, .dictionary (pick names fun name => Toml.asRead ((c.fields.lookup name).getD .null)))] := by
  have hblank : ∀ blank ∈ gap, Toml.isBlank blank = true := by
    intro blank hm
    rcases hgap blank hm with rfl | rfl <;> rfl
  have htitle : Toml.IsBareName tableName := isBareName_of_all (by decide)
  have hentries : ∀ entry ∈ c.chosen names, Toml.IsBareName entry.1 ∧ Toml.HasForm entry.2 := by
    intro entry hm
    obtain ⟨name, hname, rfl⟩ := List.mem_map.mp hm
    obtain ⟨v, hlookup, hfield⟩ := exists_lookup_fields c (hnames name hname)
    refine ⟨isBareName_of_mem_names (hnames name hname), ?_⟩
    have hform := hc.hasForm hshort (name, v) hfield
    simpa [hlookup] using hform
  have hkeys : ((c.chosen names).map (·.1)).Nodup := by
    simpa [chosen, pick, Function.comp_def] using hdistinct
  rw [documentText, Toml.read_documentText hblank hending htitle hentries hkeys, chosen, pick, pick, List.map_map]
  rfl

/-- Loading undoes writing. Some fields of a configuration are written into a document, each on a line of its own and in any order,
with the library and the log level in any letter case and the shape as a list; none of their integers has more digits than can be read.
The configuration that is loaded from the document has these fields in their normal form, and the defaults for the others. -/
theorem load_documentText (c : Configuration) (hc : c.Acceptable) (hshort : c.IsShort) (names : List String)
    (hnames : ∀ name ∈ names, name ∈ signature.names) (hdistinct : names.Nodup) (gap ending : List Char)
    (hgap : ∀ blank ∈ gap, blank = ' ' ∨ blank = '\t') (hending : ending = [] ∨ ending = ['\n'])
    (files : FileSystem) (path : String) (hfile : files path = some (.file (c.documentText names gap ending).toUTF8)) :
    load files (.str path) = .ok (ofFields (c.normalForm.chosen names)) := by
  obtain ⟨hacceptable, hnormal⟩ := hc.ofFields_asRead names
  have hread := hc.read_documentText hshort hnames hdistinct hgap hending
  have hholds : Holds files path
      [(tableName, .dictionary (pick names fun name => Toml.asRead ((c.fields.lookup name).getD .null)))] :=
    ⟨_, _, hfile, dif_pos (String.isValidUTF8 _), hread⟩
  have hcheck : signature.check (pick names fun name => Toml.asRead ((c.fields.lookup name).getD .null)) = .ok () := by
    refine check_eq_ok_iff.mpr ?_
    intro field hm
    obtain ⟨name, hname, rfl⟩ := List.mem_map.mp hm
    exact hnames name hname
  rw [load_of_holds hholds, ofDocument_of_lookup rfl, make, hcheck]
  dsimp only
  rw [hacceptable.validate_eq, hnormal]
  rfl

/-- A configuration as a caller may give it. -/
def handwritten : Configuration where
  backend := .str "TensorFlow"
  shape := .list [.int 4, .int 128]
  deviceIndex := .int 3
  checkCompute := .bool true
  logLevel := .str "dEbUg"

/-- Some of its fields, in some order. -/
def handwrittenNames : List String := ["log_level", "shape", "check_compute", "backend"]

/-- The document of these fields. -/
def handwrittenText : String :=
  "[diagnostic]\nlog_level = \"dEbUg\"\nshape = [4, 128]\ncheck_compute = true\nbackend = \"TensorFlow\"\n"

/-- The document is loaded without the index of the device, which was not written. -/
theorem load_documentText_handwritten :
    let files : FileSystem := fun path => if path = "probe.toml" then some (.file handwrittenText.toUTF8) else none
    handwritten.Acceptable ∧ handwritten.IsShort ∧ handwritten.documentText handwrittenNames [' '] ['\n'] = handwrittenText ∧
      load files (.str "probe.toml") = .ok
        { backend := .str "tensorflow", shape := .tuple [.int 4, .int 128], checkCompute := .bool true, logLevel := .str "DEBUG" } := by
  intro files
  have hacceptable : handwritten.Acceptable :=
    { backend := ⟨"TensorFlow", .tensorflow, rfl, by decide +kernel⟩
      shape := ⟨[.int 4, .int 128], Or.inl rfl, nofun, by simp [IsIntegerFrom]⟩
      deviceIndex := ⟨3, rfl, by decide⟩
      computeSize := ⟨1000, rfl, by decide⟩
      reportEnvironment := ⟨false, rfl⟩
      checkCompute := ⟨true, rfl⟩
      logLevel := ⟨"dEbUg", rfl, by decide +kernel⟩ }
  have hshort : handwritten.IsShort := by
    have hall : handwritten.fields.all (fun field => field.2.hasShortIntegers) = true := by decide +kernel
    exact List.all_eq_true.mp hall
  have htext : handwritten.documentText handwrittenNames [' '] ['\n'] = handwrittenText := by decide +kernel
  have hfile : files "probe.toml" = some (.file (handwritten.documentText handwrittenNames [' '] ['\n']).toUTF8) := by
    rw [htext]
    exact if_pos rfl
  refine ⟨hacceptable, hshort, htext, ?_⟩
  exact load_documentText handwritten hacceptable hshort handwrittenNames (by decide) (by decide) [' '] ['\n'] (by simp) (Or.inr rfl)
    files "probe.toml" hfile

end Configuration

end AccelProbe
