import AccelProbe.Proofs.Section.Served
import AccelProbe.Proofs.Text.Division

/-!
# Telling environment reports apart

The lines of an environment report stand in three sections, each under a heading. A heading has no mark in it, and every other line has
one, so the headings part the lines wherever they stand. Within the sections a variable is read up to the first mark of its line, a
capability up to the last blank, and a device by its place. So two reports with the same lines are the same.
-/

namespace AccelProbe

namespace EnvironmentReport

/-- What the lines of a report tell. -/
structure Contents where
  /-- The variables with their values, in order; a variable that is not set has none. -/
  settings : List (String × Option String)
  /-- The capabilities, in order, each present or not. -/
  capabilities : List (String × Bool)
  /-- The names of the devices, by index. -/
  devices : List String
deriving DecidableEq

namespace Contents

/-- The report that tells this. -/
def report (c : Contents) : EnvironmentReport where
  settings := .dictionary (c.settings.map fun entry => (entry.1, entry.2.elim .null .str))
  buildInfo := .dictionary (c.capabilities.map fun entry => (entry.1, .bool entry.2))
  deviceNames := .list (c.devices.map .str)

/-- Contents whose variables can be told from their lines: no name has a mark in it, and no value stands for a variable that is not
set. -/
def Plain (c : Contents) : Prop := ∀ entry ∈ c.settings, ¬ Text.mark <:+: entry.1.toList ∧ entry.2 ≠ some unsetText

/-! ## The lines -/

/-- The line of a variable. -/
def settingText (entry : String × Option String) : String := entry.1 ++ ": " ++ entry.2.getD unsetText

/-- The line of a capability. -/
def capabilityText (entry : String × Bool) : String := entry.1 ++ ": " ++ flagText (.bool entry.2)

/-- The line of a device, by its index. -/
def deviceText (index : Nat) (name : String) : String := "Device " ++ natText index ++ ": " ++ name

/-- The lines of the devices. -/
def deviceLines (c : Contents) : List String := c.devices.zipIdx.map fun entry => deviceText entry.2 entry.1

/-- The lines of the devices behind their heading, where there are any. -/
def deviceSection (c : Contents) : List String := if c.devices.isEmpty then [] else devicesHeading :: c.deviceLines

/-- The three headings. -/
def headings : List String := [variablesHeading, capabilitiesHeading, devicesHeading]

/-- All lines of the report. -/
def lines (c : Contents) : List String :=
  variablesHeading :: c.settings.map settingText ++ capabilitiesHeading :: c.capabilities.map capabilityText ++ c.deviceSection

/-- The lines with each section at the end of those before it. -/
theorem lines_eq (c : Contents) :
    c.lines = variablesHeading :: (c.settings.map settingText ++
      capabilitiesHeading :: (c.capabilities.map capabilityText ++ c.deviceSection)) := by
  rw [lines, List.cons_append, List.cons_append, List.append_assoc, List.cons_append]

/-- The report has these lines. -/
theorem lines_report (c : Contents) : c.report.lines = .ok c.lines := by
  have hsettings : (c.settings.map fun entry => (entry.1, entry.2.elim Value.null .str)).mapM variableLine =
      .ok (c.settings.map settingText) := by
    rw [List.mapM_map]
    exact mapM_eq_ok_map fun entry _ => Section.Environment.variableLine_elim entry.1 entry.2
  have hdevices : EnvironmentReport.deviceLines (.list (c.devices.map .str)) = .ok c.deviceSection :=
    Section.Environment.deviceLines_names c.devices
  simp only [EnvironmentReport.lines, report, Value.entries, Bind.bind, Except.bind, hsettings, hdevices, List.map_map]
  rfl

/-- Lines with a mark are no headings. -/
theorem not_mem_headings_of_mem_map {α : Type} (label said : α → String) (xs : List α) :
    ∀ line ∈ xs.map (fun x => label x ++ ": " ++ said x), line ∉ headings := by
  have hnone : ∀ heading ∈ headings, ':' ∉ heading.toList := by decide
  intro line hm hheading
  obtain ⟨x, -, rfl⟩ := List.mem_map.mp hm
  have hcolon : ':' ∈ (label x ++ ": " ++ said x).toList := by
    rw [Text.toList_line]
    simp [Text.mark]
  exact hnone _ hheading hcolon

/-- No variable is like a heading. -/
theorem settings_not_headings (c : Contents) : ∀ line ∈ c.settings.map settingText, line ∉ headings :=
  not_mem_headings_of_mem_map Prod.fst (·.2.getD unsetText) c.settings

/-- No capability is like a heading. -/
theorem capabilities_not_headings (c : Contents) : ∀ line ∈ c.capabilities.map capabilityText, line ∉ headings :=
  not_mem_headings_of_mem_map Prod.fst (fun entry => flagText (.bool entry.2)) c.capabilities

/-- No device is like a heading. -/
theorem devices_not_headings (c : Contents) : ∀ line ∈ c.deviceLines, line ∉ headings :=
  not_mem_headings_of_mem_map (fun entry : String × Nat => "Device " ++ natText entry.2) Prod.fst c.devices.zipIdx

/-- A device stands in its section behind the heading, at its index. -/
theorem getElem?_deviceSection (c : Contents) (i : Nat) : c.deviceSection[i + 1]? = c.devices[i]?.map (deviceText i) := by
  cases hdevices : c.devices with
  | nil =>
    rw [deviceSection, hdevices]
    rfl
  | cons name names =>
    have hsection : c.deviceSection = devicesHeading :: c.deviceLines := by
      rw [deviceSection, hdevices]
      rfl
    rw [hsection, List.getElem?_cons_succ, deviceLines, hdevices, List.getElem?_map, List.getElem?_zipIdx, Option.map_map,
      Nat.zero_add]
    rfl

/-! ## Reading them -/

/-- The variable of a line. -/
def setting? (line : String) : Option (String × Option String) :=
  (Text.divide? line.toList).map fun parts =>
    (String.ofList parts.1, if String.ofList parts.2 = unsetText then none else some (String.ofList parts.2))

/-- A variable is read from its line. -/
theorem setting?_settingText {entry : String × Option String} (hname : ¬ Text.mark <:+: entry.1.toList)
    (hvalue : entry.2 ≠ some unsetText) : setting? (settingText entry) = some entry := by
  obtain ⟨name, value⟩ := entry
  rw [setting?, settingText, Text.toList_line, Text.divide?_append hname, Option.map_some, String.ofList_toList,
    String.ofList_toList]
  cases value with
  | none => rw [Option.getD_none, if_pos rfl]
  | some text => rw [Option.getD_some, if_neg fun h => hvalue (congrArg some h)]

/-- The variables of two reports are the same where their lines are. -/
theorem settings_inj {c c' : Contents} (h : c.Plain) (h' : c'.Plain)
    (heq : c.settings.map settingText = c'.settings.map settingText) : c.settings = c'.settings := by
  have hread : ∀ d : Contents, d.Plain → (d.settings.map settingText).map setting? = d.settings.map some := by
    intro d hd
    rw [List.map_map]
    exact List.map_congr_left fun entry hm => setting?_settingText (hd entry hm).1 (hd entry hm).2
  refine (List.map_inj_right fun _ _ => Option.some.inj).mp ?_
  rw [← hread c h, heq, hread c' h']

/-- A capability is told from its line: its flag is the last word. -/
theorem capabilityText_inj {entry entry' : String × Bool} (heq : capabilityText entry = capabilityText entry') : entry = entry' := by
  have hword : ∀ b, ' ' ∉ (flagText (.bool b)).toList := by decide
  have hinj : ∀ b b', flagText (.bool b) = flagText (.bool b') → b = b' := by decide
  obtain ⟨hname, hflag⟩ := Text.eq_of_line_eq (hword entry.2) (hword entry'.2) heq
  exact Prod.ext hname (hinj _ _ hflag)

/-- The names of the devices are told from their section. -/
theorem devices_inj {c c' : Contents} (heq : c.deviceSection = c'.deviceSection) : c.devices = c'.devices := by
  refine List.ext_getElem? fun i => ?_
  have hi := congrArg (·[i + 1]?) heq
  simp only [getElem?_deviceSection] at hi
  exact Option.map_injective (fun _ _ h => (String.append_right_inj _).mp h) hi

/-- Lines without the heading of the devices are those before their section. -/
theorem takeWhile_append_deviceSection {before : List String} (h : devicesHeading ∉ before) (c : Contents) :
    (before ++ c.deviceSection).takeWhile (· != devicesHeading) = before := by
  have hbefore : ∀ line ∈ before, (line != devicesHeading) = true := by
    intro line hm
    exact bne_iff_ne.mpr fun heq => h (heq ▸ hm)
  rw [List.takeWhile_append_of_pos hbefore, deviceSection]
  split
  · exact List.append_nil before
  · rw [List.takeWhile_cons_of_neg (by simp), List.append_nil]

/-- Two reports with the same lines are the same: the heading of the capabilities ends the variables, and the heading of the devices,
or the end of the lines, ends the capabilities. -/
theorem lines_inj {c c' : Contents} (h : c.Plain) (h' : c'.Plain) (heq : c.lines = c'.lines) : c = c' := by
  have hsettings (d : Contents) : capabilitiesHeading ∉ d.settings.map settingText :=
    fun hm => d.settings_not_headings _ hm (by simp [headings])
  have hcapabilities (d : Contents) : devicesHeading ∉ d.capabilities.map capabilityText :=
    fun hm => d.capabilities_not_headings _ hm (by simp [headings])
  rw [lines_eq, lines_eq] at heq
  obtain ⟨hvariables, hrest⟩ := eq_of_append_cons_eq (hsettings c) (hsettings c') (List.cons.inj heq).2
  have hbuilt : c.capabilities.map capabilityText = c'.capabilities.map capabilityText := by
    rw [← takeWhile_append_deviceSection (hcapabilities c) c, hrest, takeWhile_append_deviceSection (hcapabilities c') c']
  have hsection := List.append_cancel_left (hbuilt ▸ hrest)
  have hone : c.settings = c'.settings := settings_inj h h' hvariables
  have htwo : c.capabilities = c'.capabilities := (List.map_inj_right fun _ _ => capabilityText_inj).mp hbuilt
  have hthree : c.devices = c'.devices := devices_inj hsection
  obtain ⟨_, _, _⟩ := c
  obtain ⟨_, _, _⟩ := c'
  cases hone
  cases htwo
  cases hthree
  rfl

/-- The lines of a report are the headings with the variables, the capabilities and the devices behind them, and none of these is like a
heading; each device has its index, and stands at its place. Reports with plain variables that have the same lines are the same, and so
is the order of everything in them. -/
theorem lines_unambiguous (c : Contents) :
    c.report.lines = .ok c.lines ∧
      (∀ line ∈ c.settings.map settingText ++ c.capabilities.map capabilityText ++ c.deviceLines, line ∉ headings) ∧
      (∀ i name, c.devices[i]? = some name →
        c.lines[c.settings.length + c.capabilities.length + 3 + i]? = some ("Device " ++ natText i ++ ": " ++ name)) ∧
      (c.Plain → ∀ c' : Contents, c'.Plain → c.report.lines = c'.report.lines → c = c') := by
  refine ⟨lines_report c, ?_, ?_, ?_⟩
  · intro line hm
    rcases List.mem_append.mp hm with hm | hm
    · rcases List.mem_append.mp hm with hm | hm
      · exact c.settings_not_headings line hm
      · exact c.capabilities_not_headings line hm
    · exact c.devices_not_headings line hm
  · intro i name hname
    have hbefore : (variablesHeading :: c.settings.map settingText ++ capabilitiesHeading :: c.capabilities.map capabilityText).length =
        c.settings.length + c.capabilities.length + 2 := by
      rw [List.length_append, List.length_cons, List.length_cons, List.length_map, List.length_map]
      omega
    have hplace : c.settings.length + c.capabilities.length + 3 + i - (c.settings.length + c.capabilities.length + 2) = i + 1 := by
      omega
    rw [lines, List.getElem?_append_right (by omega), hbefore, hplace, getElem?_deviceSection, hname]
    rfl
  · intro h c' h' heq
    rw [lines_report, lines_report] at heq
    exact lines_inj h h' (Except.ok.inj heq)

/-- Contents with names and values that are like the other lines of a report. -/
def crafty : Contents where
  settings := [("CUDA_VISIBLE_DEVICES", none), ("=== Build ===", some "=== Build ==="), ("PATH", some "a: true")]
  capabilities := [("Device 0: cuda", true), ("", false)]
  devices := ["=== Devices ===", "cuda: true"]

/-- No other report has their lines. -/
theorem lines_unambiguous_crafty :
    crafty.Plain ∧ crafty.report.lines = .ok crafty.lines ∧
      ∀ c' : Contents, c'.Plain → crafty.report.lines = c'.report.lines → crafty = c' := by
  have hplain : crafty.Plain := by
    intro entry hm
    have hcolon : ∀ entry ∈ crafty.settings, ':' ∉ entry.1.toList ∧ entry.2 ≠ some unsetText := by decide
    exact ⟨Text.not_mark_infix (hcolon entry hm).1, (hcolon entry hm).2⟩
  obtain ⟨hlines, -, -, hinj⟩ := lines_unambiguous crafty
  exact ⟨hplain, hlines, hinj hplain⟩

end Contents

end EnvironmentReport

end AccelProbe
