import AccelProbe.Proofs.Section.Devices
import AccelProbe.Proofs.Section.Expansion

/-!
# What the environment report says of the variables

The report has one line for each of the variables that are reported, in order and under a heading of its own. No other line tells of
one: the headings, the capabilities of both libraries and the lines of the devices begin otherwise.
-/

namespace AccelProbe

/-- The capabilities that a library tells of, by name. -/
def Library.capabilities : Library → List String
  | torch => ["cuDNN Available", "Built With CUDA", "Built With MKL", "MPS Available"]
  | tensorflow => ["Built With CUDA", "Built With GPU Support"]

namespace Section.Environment

open Program

/-- Whether a line tells of the variable of this name. -/
def TellsOf (name : String) (line : Value) : Prop := ∃ value, line = .str (name ++ ": " ++ value)

/-- The line of a variable of which a value is shown. -/
def shownLine (shown : String → String) (name : String) : Value := .str (name ++ ": " ++ shown name)

/-- Whether the lines of a report show this of the variables. -/
structure Shows (shown : String → String) (lines : List Value) : Prop where
  /-- The lines of the variables stand under the first heading, in order, and the rest under the next one. -/
  sorted : ∃ others, lines = .str EnvironmentReport.variablesHeading :: Environment.reported.map (shownLine shown) ++
    .str EnvironmentReport.capabilitiesHeading :: others
  /-- One line tells of each variable, and no other does. -/
  once : ∀ name ∈ Environment.reported, ∃ before after, lines = before ++ shownLine shown name :: after ∧
    ∀ line ∈ before ++ after, ¬ TellsOf name line

/-- The characters with which the names of the variables begin. -/
def initials : List Char := ['C', 'L', 'P', 'T']

theorem head?_of_reported {name : String} (hm : name ∈ Environment.reported) : ∃ c ∈ initials, name.toList.head? = some c := by
  have hany : ∀ name ∈ Environment.reported, name.toList.head?.any initials.contains = true := by decide +kernel
  obtain ⟨c, hhead, hc⟩ := (Option.any_eq_true _ _).mp (hany name hm)
  exact ⟨c, List.contains_iff_mem.mp hc, hhead⟩

/-- A text that begins otherwise tells of no variable. -/
theorem not_tellsOf {text : String} {c : Char} (hhead : text.toList.head? = some c) (hc : c ∉ initials) {name : String}
    (hm : name ∈ Environment.reported) : ¬ TellsOf name (.str text) := by
  rintro ⟨value, hv⟩
  have htext : text.toList = name.toList ++ (": ".toList ++ value.toList) := by
    rw [Value.str.inj hv, String.toList_append, String.toList_append, List.append_assoc]
  obtain ⟨d, hd, hname⟩ := head?_of_reported hm
  rw [htext, List.head?_append, hname] at hhead
  cases hhead
  exact hc hd

/-- What stands before the first colon of a line that tells of a variable is its name. -/
theorem takeWhile_of_tellsOf {text name : String} (hm : name ∈ Environment.reported) (h : TellsOf name (.str text)) :
    text.toList.takeWhile (· != ':') = name.toList := by
  obtain ⟨value, hv⟩ := h
  have hcolon : ∀ name ∈ Environment.reported, name.toList.all (· != ':') = true := by decide +kernel
  rw [Value.str.inj hv, String.toList_append, String.toList_append, List.append_assoc,
    List.takeWhile_append_of_pos (List.all_eq_true.mp (hcolon name hm))]
  simp

/-- The line of a variable tells of no other one. -/
theorem eq_of_tellsOf_shownLine {shown : String → String} {name name' : String} (hm : name ∈ Environment.reported)
    (hm' : name' ∈ Environment.reported) (h : TellsOf name (shownLine shown name')) : name = name' := by
  have hname := takeWhile_of_tellsOf hm h
  have hname' := takeWhile_of_tellsOf hm' ⟨shown name', rfl⟩
  exact String.toList_injective (hname.symm.trans hname')

/-- Lines under both headings show the variables, if no line under the second one tells of any. -/
theorem shows_of_others {shown : String → String} {others : List Value}
    (hothers : ∀ line ∈ others, ∀ name ∈ Environment.reported, ¬ TellsOf name line) :
    Shows shown (.str EnvironmentReport.variablesHeading :: Environment.reported.map (shownLine shown) ++
      .str EnvironmentReport.capabilitiesHeading :: others) := by
  refine ⟨⟨others, rfl⟩, ?_⟩
  intro name hm
  obtain ⟨earlier, later, hreported⟩ := List.append_of_mem hm
  have hnodup : (earlier ++ name :: later).Nodup := hreported ▸ (by decide)
  have hrest : name ∉ earlier ++ later := (List.nodup_cons.mp (List.perm_middle.nodup_iff.mp hnodup)).1
  refine ⟨.str EnvironmentReport.variablesHeading :: earlier.map (shownLine shown),
    later.map (shownLine shown) ++ .str EnvironmentReport.capabilitiesHeading :: others, by simp [hreported], ?_⟩
  intro line hline htells
  have hheading : ∀ heading ∈ [EnvironmentReport.variablesHeading, EnvironmentReport.capabilitiesHeading],
      line ≠ .str heading := by
    have hheads : ∀ heading ∈ [EnvironmentReport.variablesHeading, EnvironmentReport.capabilitiesHeading],
        heading.toList.head? = some '=' := by decide +kernel
    rintro heading hheading rfl
    exact not_tellsOf (hheads heading hheading) (by decide) hm htells
  have hvariable : line ∉ (earlier ++ later).map (shownLine shown) := by
    intro hmem
    obtain ⟨name', hm', rfl⟩ := List.mem_map.mp hmem
    have hmem' : name' ∈ Environment.reported := by
      rw [hreported]
      exact List.mem_append.mpr ((List.mem_append.mp hm').imp_right (List.mem_cons_of_mem name))
    exact hrest (eq_of_tellsOf_shownLine hm hmem' htells ▸ hm')
  have hother : line ∉ others := fun hmem => hothers line hmem name hm htells
  simp only [List.mem_append, List.mem_cons, List.cons_append, List.map_append] at hline hvariable hheading
  grind

/-- The capabilities of a library are told of under their names. -/
theorem entries_of_buildInfo {version buildInfo : Value} {l : Library} {h : History LibraryCall} {entries : List (String × Value)}
    (ht : ((Backend.loaded version l).perform .buildInfo).Trace h (.ok buildInfo)) (hentries : buildInfo.entries = .ok entries) :
    entries.map (·.1) = l.capabilities := by
  cases l with
  | torch =>
    obtain ⟨_, ht, -⟩ := trace_rename ht
    rcases trace_ask_bind ht with ⟨cudnn, _, -, ht⟩ | ⟨_, _, hr⟩
    case inr => cases hr
    rcases trace_ask_bind ht with ⟨cuda, _, -, ht⟩ | ⟨_, _, hr⟩
    case inr => cases hr
    rcases trace_ask_bind ht with ⟨mkl, _, -, ht⟩ | ⟨_, _, hr⟩
    case inr => cases hr
    rcases trace_ask_bind ht with ⟨mps, _, -, ht⟩ | ⟨_, _, hr⟩
    case inr => cases hr
    obtain ⟨-, hr⟩ := trace_done_iff.mp ht
    cases hr
    cases hentries
    rfl
  | tensorflow =>
    obtain ⟨_, ht, -⟩ := trace_rename ht
    rcases trace_ask_bind ht with ⟨cuda, _, -, ht⟩ | ⟨_, _, hr⟩
    case inr => cases hr
    rcases trace_ask_bind ht with ⟨gpu, _, -, ht⟩ | ⟨_, _, hr⟩
    case inr => cases hr
    obtain ⟨-, hr⟩ := trace_done_iff.mp ht
    cases hr
    cases hentries
    rfl

/-- A line of a capability tells of no variable. -/
theorem not_tellsOf_capabilityLine {l : Library} {entry : String × Value} (hentry : entry.1 ∈ l.capabilities) {name : String}
    (hm : name ∈ Environment.reported) : ¬ TellsOf name (.str (EnvironmentReport.capabilityLine entry)) := by
  have hheads : ∀ l : Library, ∀ capability ∈ l.capabilities, capability.toList.head?.any (fun c => !initials.contains c) = true := by
    intro l
    cases l <;> decide +kernel
  obtain ⟨c, hhead, hc⟩ := (Option.any_eq_true _ _).mp (hheads l entry.1 hentry)
  refine not_tellsOf ?_ (by simpa using hc) hm
  rw [EnvironmentReport.capabilityLine, String.append_assoc, String.toList_append, List.head?_append, hhead]
  rfl

/-- The lines of the devices tell of no variable. -/
theorem not_tellsOf_of_mem_deviceLines {names : Value} {devices : List String} (hd : EnvironmentReport.deviceLines names = .ok devices)
    {line : String} (hline : line ∈ devices) {name : String} (hm : name ∈ Environment.reported) : ¬ TellsOf name (.str line) := by
  unfold EnvironmentReport.deviceLines at hd
  split at hd
  case isFalse =>
    cases hd
    cases hline
  case isTrue =>
    obtain ⟨items, -, hd⟩ := exists_of_bind_eq_ok hd
    obtain ⟨lines, hlines, hd⟩ := exists_of_bind_eq_ok hd
    cases hd
    rcases List.mem_cons.mp hline with rfl | hline
    · exact not_tellsOf (c := '=') rfl (by decide) hm
    · obtain ⟨⟨device, index⟩, -, hdevice⟩ := exists_of_mem_mapM hlines line hline
      obtain ⟨text, -, hdevice⟩ := exists_of_bind_eq_ok hdevice
      cases hdevice
      refine not_tellsOf (c := 'D') ?_ (by decide) hm
      simp

/-- The section over a library shows the variables as the environment has them. -/
theorem shows_of_trace {version : Value} {l : Library} {env : AccelProbe.Environment} {h : History LibraryCall}
    {report : EnvironmentReport} (ht : (run (Backend.loaded version l) env).Trace h (.ok report)) :
    Shows (fun name => (env.value? name).getD EnvironmentReport.unsetText) h.lines := by
  obtain ⟨course, hway, he⟩ := exists_way ht
  rw [he.lines (Backend.plain_loaded version l).quiet]
  cases hway with
  | @reported buildInfo available names count lines hn hl hr =>
    obtain ⟨capabilities, devices, hcapabilities, hdevices, rfl⟩ := lines_eq hr
    obtain ⟨part, rest, rfl, hbuilt, -⟩ := Expands.of_called he
    have hnames := entries_of_buildInfo hbuilt hcapabilities
    rw [History.lines_append, lines_inventory]
    have hothers : ∀ line ∈ (capabilities.map EnvironmentReport.capabilityLine ++ devices).map Value.str,
        ∀ name ∈ Environment.reported, ¬ TellsOf name line := by
      intro line hline name hm
      obtain ⟨text, htext, rfl⟩ := List.mem_map.mp hline
      rcases List.mem_append.mp htext with hcapability | hdevice
      · obtain ⟨entry, hentry, rfl⟩ := List.mem_map.mp hcapability
        exact not_tellsOf_capabilityLine (hnames ▸ List.mem_map_of_mem hentry) hm
      · exact not_tellsOf_of_mem_deviceLines hdevices hdevice hm
    refine (congrArg (Shows _) ?_).mpr (shows_of_others hothers)
    refine (History.lines_ofLines _).trans ?_
    simp [settingLines, shownLine]

end Section.Environment

end AccelProbe
