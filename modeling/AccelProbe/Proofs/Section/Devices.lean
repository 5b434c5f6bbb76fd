import AccelProbe.Proofs.Backend.Devices
import AccelProbe.Proofs.Section.Served

/-!
# What the sections say of the devices

Each section asks for itself whether there is an accelerator, and what else it needs to know of the devices. Where the answers are
settled, a section that returns has written the lines that they call for; the library is free in all else.
-/

namespace AccelProbe

namespace Section

open Program Value

variable {h : History Query} {names : List Value}

/-- Where a history says that there is an accelerator, there is a device. -/
theorem pos_of_available (hf : h.Finds names) {available : Value} (hm : .called .isAvailable (.ok available) ∈ h)
    (ha : available.isTruthy = true) : 0 < names.length := by
  rw [hf.available available hm] at ha
  exact of_decide_eq_true ha

/-- Where a history says that there is no accelerator, there is no device. -/
theorem eq_nil_of_unavailable (hf : h.Finds names) {available : Value} (hm : .called .isAvailable (.ok available) ∈ h)
    (ha : available.isTruthy = false) : names = [] := by
  rw [hf.available available hm] at ha
  exact List.eq_nil_of_length_eq_zero (Nat.eq_zero_of_not_pos (of_decide_eq_false ha))

namespace Diagnostic

variable {library accelerator : String} {sizes : List Value} {index : Value}

/-- The lines that tell of an accelerator with this many devices. -/
def statedLines (library accelerator : String) (version : Value) (count : Nat) : List Value :=
  [.str (versionText library version), .str (accelerator ++ " Available: " ++ if 0 < count then "true" else "false"),
    .str (accelerator ++ " Device Count: " ++ natText count)]

/-- The lines of the section where this many devices are found. A tensor is confirmed and printed only where there is a device. -/
def foundLines (library accelerator : String) (version text : Value) (count : Nat) : List Value :=
  statedLines library accelerator version count ++ if 0 < count then [.str (confirmationText accelerator), text] else []

/-- The lines of the opening, where the questions for devices are settled. -/
theorem lines_opening_of_finds (hf : h.Finds names) {version available count : Value} (ha : .called .isAvailable (.ok available) ∈ h)
    (hc : .called .deviceCount (.ok count) ∈ h) :
    (opening library accelerator version available count).lines = statedLines library accelerator version names.length := by
  obtain rfl := hf.available available ha
  obtain rfl := hf.counted count hc
  have hflag : flagText (.bool (decide (0 < names.length))) = if 0 < names.length then "true" else "false" := by
    simp [flagText, isTruthy]
  rw [lines_opening, availabilityText, hflag]
  rfl

/-- The lines of a section that returns, where the questions for devices are settled. -/
theorem Way.lines_of_finds {report : DiagnosticReport} (hway : Way library accelerator sizes index h (.ok report))
    (hf : h.Finds names) : ∃ version text, h.lines = foundLines library accelerator version text names.length := by
  cases hway with
  | skipped version available count hv hn ha =>
    have havailable : .called .isAvailable (.ok available) ∈
        opening library accelerator version available count ++ [.logged (skippedRecord accelerator)] := by simp [opening, question]
    obtain rfl := eq_nil_of_unavailable hf havailable ha
    refine ⟨version, .null, ?_⟩
    rw [History.lines_append, lines_opening_of_finds hf havailable (by simp [opening, question])]
    rfl
  | @allocated version available count fresh tensor text record hv hn ha hr =>
    have havailable : .called .isAvailable (.ok available) ∈ opening library accelerator version available count ++
        .logged record :: (allocation sizes index fresh tensor text ++ closing accelerator text) := by simp [opening, question]
    have hpos : 0 < names.length := pos_of_available hf havailable ha
    refine ⟨version, text, ?_⟩
    rw [History.lines_append, lines_opening_of_finds hf havailable (by simp [opening, question]), foundLines, if_pos hpos]
    rfl

end Diagnostic

namespace Environment

variable {accelerator : String} {env : AccelProbe.Environment} {capabilities : List (String × Value)}

/-- The lines of the devices are numbered from zero, under their heading where there are any. -/
theorem eq_deviceSection {lines : List String} (hl : EnvironmentReport.deviceLines (.list names) = .ok lines) :
    lines = deviceSection (names.map display) := by
  cases names with
  | nil => exact (Except.ok.inj hl).symm
  | cons name names =>
    obtain ⟨items, hitems, hl⟩ := exists_of_bind_eq_ok (hl : _ >>= _ = _)
    cases hitems
    obtain ⟨devices, hdevices, hl⟩ := exists_of_bind_eq_ok hl
    cases hl
    have hlines : devices = (name :: names).zipIdx.map fun entry => "Device " ++ natText entry.2 ++ ": " ++ entry.1.display := by
      refine eq_map_of_mapM_eq_ok hdevices ?_
      rintro ⟨device, index⟩ line hline
      obtain ⟨text, htext, hline⟩ := exists_of_bind_eq_ok hline
      cases hline
      rw [(toText_eq_ok_iff.mp htext).2]
    rw [hlines, deviceSection, List.zipIdx_map, List.map_map]
    rfl

/-- The lines of a report that can be written are those of the variables, of the capabilities and of the devices. -/
theorem lines_eq {env : AccelProbe.Environment} {buildInfo names : Value} {lines : List String}
    (hl : (reportOn env buildInfo names).lines = .ok lines) :
    ∃ capabilities devices, buildInfo.entries = .ok capabilities ∧ EnvironmentReport.deviceLines names = .ok devices ∧
      lines = EnvironmentReport.variablesHeading :: settingLines env ++
        EnvironmentReport.capabilitiesHeading :: capabilities.map EnvironmentReport.capabilityLine ++ devices := by
  obtain ⟨entries, hentries, hl⟩ := exists_of_bind_eq_ok hl
  cases hentries
  obtain ⟨settings, hsettings, hl⟩ := exists_of_bind_eq_ok hl
  obtain rfl := Except.ok.inj (hsettings.symm.trans (mapM_variableLine env))
  obtain ⟨capabilities, hcapabilities, hl⟩ := exists_of_bind_eq_ok hl
  obtain ⟨devices, hdevices, hl⟩ := exists_of_bind_eq_ok hl
  cases hl
  exact ⟨capabilities, devices, hcapabilities, hdevices, rfl⟩

/-- The lines of a report on devices with these names. -/
theorem lines_eq_expected {buildInfo : Value} {lines : List String} (hl : (reportOn env buildInfo (.list names)).lines = .ok lines) :
    ∃ capabilities, lines = expected env capabilities (names.map display) := by
  obtain ⟨capabilities, devices, -, hdevices, rfl⟩ := lines_eq hl
  exact ⟨capabilities, by rw [eq_deviceSection hdevices, expected]⟩

/-- The lines of a section that returns, where the questions for devices are settled. -/
theorem Way.lines_of_finds {report : EnvironmentReport} (hway : Way accelerator env h (.ok report)) (hf : h.Finds names) :
    ∃ capabilities, h.lines = (expected env capabilities (names.map display)).map .str := by
  cases hway with
  | @reported buildInfo available found count lines hn hl hr =>
    have hfound : found = .list names := by
      cases ha : available.isTruthy with
      | true => exact hf.named found (by simp [inventory, ha])
      | false =>
        -- without an accelerator the names are not asked for, and there are none
        rw [hn ha, eq_nil_of_unavailable hf (by simp [inventory]) ha]
    subst hfound
    obtain ⟨capabilities, rfl⟩ := lines_eq_expected hr
    refine ⟨capabilities, ?_⟩
    rw [History.lines_append, lines_inventory]
    exact History.lines_ofLines _

/-- Without a device every line of the section is a heading or has a colon. -/
theorem notMem_expected_nil {text : String} (hcolon : ':' ∉ text.toList) (hvariables : text ≠ EnvironmentReport.variablesHeading)
    (hcapabilities : text ≠ EnvironmentReport.capabilitiesHeading) : text ∉ expected env capabilities [] := by
  intro hm
  simp only [expected, deviceSection, List.isEmpty_nil, if_true, List.append_nil, List.cons_append, List.mem_cons,
    List.mem_append] at hm
  rcases hm with rfl | hm | rfl | hm
  · exact hvariables rfl
  · obtain ⟨name, -, rfl⟩ := List.mem_map.mp hm
    exact hcolon (by simp)
  · exact hcapabilities rfl
  · obtain ⟨entry, -, rfl⟩ := List.mem_map.mp hm
    exact hcolon (by simp [EnvironmentReport.capabilityLine])

/-- The devices have a heading exactly where there are any. -/
theorem devicesHeading_mem_expected_iff {names : List String} :
    EnvironmentReport.devicesHeading ∈ expected env capabilities names ↔ 0 < names.length := by
  cases names with
  | nil => exact iff_of_false (notMem_expected_nil (by decide) (by decide) (by decide)) (Nat.lt_irrefl 0)
  | cons name names => exact iff_of_true (by simp [expected, deviceSection]) (Nat.zero_lt_succ _)

end Environment

namespace Compute

variable {accelerator : String} {size index : Value}

/-- A section that returns has no report exactly where there is no device. -/
theorem Way.isNone_iff_of_finds {report : Option ComputeReport} (hway : Way accelerator size index h (.ok report))
    (hf : h.Finds names) : report = none ↔ names.length = 0 := by
  cases hway with
  | skipped available ha =>
    obtain rfl := eq_nil_of_unavailable hf List.mem_cons_self ha
    exact iff_of_true rfl rfl
  | passed available fresh matrix product copy statistics ha hr hs hl =>
    have hpos : 0 < names.length := pos_of_available hf List.mem_cons_self ha
    exact iff_of_false nofun (Nat.ne_of_gt hpos)

end Compute

end Section

end AccelProbe
