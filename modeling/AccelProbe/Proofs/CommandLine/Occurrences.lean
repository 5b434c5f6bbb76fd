import AccelProbe.Proofs.CommandLine.Arguments

/-!
# The switches that occur on a command line

`Arguments.read` takes switch after switch into account and may stop at each. `occurrences` only says which switches occur on the
line and what their arguments are, from left to right. A line that is read to its end gives exactly what its occurrences say: the
argument of a switch is the last one that it was given, and a report is asked for when its switch occurs at all.
-/

namespace AccelProbe

/-- A switch as it occurs on a command line, with its argument if it takes one. -/
structure Occurrence where
  /-- The switch. -/
  switch : Switch
  /-- Its argument. -/
  argument? : Option (List Char) := none
deriving DecidableEq, Repr

namespace Arguments

/-- The switches that occur in the words that are left, from left to right. -/
def occurrences : List (List Char × Word) → List Occurrence
  | [] => []
  | (_, .switch s spelling attached) :: rest =>
    match switchesOf s spelling attached with
    | .error _ => []
    | .ok (before, last, attached) =>
      before.map ({ switch := · }) ++
        if last.takesArgument then
          match attached, rest with
          | some text, rest => ⟨last, some text⟩ :: occurrences rest
          | none, (text, _) :: rest => ⟨last, some text⟩ :: occurrences rest
          | none, [] => []
        else ⟨last, none⟩ :: occurrences rest
  | _ :: rest => occurrences rest

/-- The switches that occur on a command line. -/
def occurrencesOf (words : List String) : List Occurrence :=
  match Word.classify (words.map String.toList) with
  | .ok classified => occurrences classified
  | .error _ => []

/-- The argument of an occurrence of a switch. -/
def valueOf (s : Switch) (o : Occurrence) : Option (List Char) := if o.switch = s then o.argument? else none

/-- The last argument that a switch is given among some occurrences. -/
def lastArgument (s : Switch) (os : List Occurrence) : Option (List Char) := (os.filterMap (valueOf s)).getLast?

/-- Whether a switch is among some occurrences. -/
def occurs (s : Switch) (os : List Occurrence) : Bool := os.any (·.switch == s)

/-- Arguments with what some occurrences, the earliest first, put in their place. -/
def after (a : Arguments) (os : List Occurrence) : Arguments where
  config := ((lastArgument .config os).map argumentValue).getD a.config
  backend := ((lastArgument .backend os).map argumentValue).getD a.backend
  environment := if occurs .environment os then .bool true else a.environment
  compute := if occurs .compute os then .bool true else a.compute

theorem lastArgument_append (s : Switch) (xs ys : List Occurrence) :
    lastArgument s (xs ++ ys) = (lastArgument s ys).or (lastArgument s xs) := by
  rw [lastArgument, List.filterMap_append, List.getLast?_append]
  rfl

theorem occurs_append (s : Switch) (xs ys : List Occurrence) : occurs s (xs ++ ys) = (occurs s xs || occurs s ys) :=
  List.any_append

/-- What comes last stands, so occurrences can be taken into account in two parts. -/
theorem after_append (a : Arguments) (xs ys : List Occurrence) : a.after (xs ++ ys) = (a.after xs).after ys := by
  have hargument (s : Switch) (v : Value) : ((lastArgument s (xs ++ ys)).map argumentValue).getD v =
      ((lastArgument s ys).map argumentValue).getD (((lastArgument s xs).map argumentValue).getD v) := by
    rw [lastArgument_append]
    cases lastArgument s ys <;> rfl
  have hflag (s : Switch) (v : Value) : (if occurs s (xs ++ ys) then .bool true else v) =
      if occurs s ys then .bool true else if occurs s xs then .bool true else v := by
    rw [occurs_append]
    cases occurs s xs <;> cases occurs s ys <;> rfl
  simp only [after, hargument, hflag]

/-- What becomes of arguments when some occurrences are taken into account, none of which ends the reading of a command line. -/
structure Takes (a b : Arguments) (os : List Occurrence) : Prop where
  /-- Each of them had its effect. -/
  after : b = a.after os
  /-- The help text was not asked for. -/
  unhelped : ∀ o ∈ os, o.switch ≠ .help
  /-- Each argument is one that its switch allows. -/
  allowed : ∀ o ∈ os, ∀ text, o.argument? = some text → allows o.switch text = true

/-- Nothing is taken into account where nothing occurs. -/
theorem Takes.refl (a : Arguments) : a.Takes a [] := ⟨rfl, nofun, nofun⟩

/-- Occurrences are taken into account one part after the other. -/
theorem Takes.append {a b c : Arguments} {xs ys : List Occurrence} (hx : a.Takes b xs) (hy : b.Takes c ys) :
    a.Takes c (xs ++ ys) where
  after := by rw [after_append, ← hx.after, ← hy.after]
  unhelped o ho := (List.mem_append.mp ho).elim (hx.unhelped o) (hy.unhelped o)
  allowed o ho := (List.mem_append.mp ho).elim (hx.allowed o) (hy.allowed o)

theorem takes_flag {a b : Arguments} {s : Switch} (h : a.flag s = .ok b) : a.Takes b [⟨s, none⟩] := by
  have hhelp : s ≠ .help := by
    rintro rfl
    cases h
  refine ⟨?after, by simpa using hhelp, by simp⟩
  cases s with
  | help => exact absurd rfl hhelp
  | _ =>
    cases h
    rfl

theorem takes_flags {a b : Arguments} {switches : List Switch} (h : a.flags switches = .ok b) :
    a.Takes b (switches.map (⟨·, none⟩)) := by
  induction switches generalizing a with
  | nil =>
    cases h
    exact .refl _
  | cons s rest ih =>
    rw [Arguments.flags, List.foldlM_cons] at h
    obtain ⟨a', hs, h⟩ := exists_of_bind_eq_ok h
    exact (takes_flag hs).append (ih h)

theorem takes_argument {a b : Arguments} {s : Switch} {cs : List Char} (hs : s.takesArgument = true)
    (h : a.argument s cs = .ok b) : a.Takes b [⟨s, some cs⟩] := by
  unfold Arguments.argument at h
  split at h
  case isFalse => cases h
  case isTrue hallows =>
    have hhelp : s ≠ .help := by
      rintro rfl
      cases hs
    refine ⟨?after, by simpa using hhelp, by simpa using hallows⟩
    cases s with
    | config =>
      cases h
      rfl
    | backend =>
      cases h
      rfl
    | _ => cases hs

/-- An option has the effect that its occurrences have, and what occurs behind it is not changed by it. -/
theorem ReadsOption.takes {a b : Arguments} {option : List (List Char × Word)} (h : ReadsOption a option b) :
    ∃ os, a.Takes b os ∧ ∀ rest, occurrences (option ++ rest) = os ++ occurrences rest := by
  cases h with
  | @flags _ _ _ last _ _ before _ hs ht hflags =>
    refine ⟨before.map (⟨·, none⟩) ++ [⟨last, none⟩], ?_, ?_⟩
    · have htakes := takes_flags hflags
      rwa [List.map_append] at htakes
    · intro rest
      simp [occurrences, hs, ht]
  | @joined _ _ text _ last _ before _ _ hs ht hflags hargument =>
    refine ⟨before.map (⟨·, none⟩) ++ [⟨last, some text⟩], ?_, ?_⟩
    · exact (takes_flags hflags).append (takes_argument ht hargument)
    · intro rest
      simp [occurrences, hs, ht]
  | @separate _ _ text _ last _ before _ _ hs ht hflags hargument =>
    refine ⟨before.map (⟨·, none⟩) ++ [⟨last, some text⟩], ?_, ?_⟩
    · exact (takes_flags hflags).append (takes_argument ht hargument)
    · intro rest
      simp [occurrences, hs, ht]

/-- Options have the effect that their occurrences have. -/
theorem Reads.takes {a b : Arguments} {words : List (List Char × Word)} (h : Reads a words b) : a.Takes b (occurrences words) := by
  induction h with
  | nil a => exact .refl a
  | cons hoption _ ih =>
    obtain ⟨os, htakes, hoccurrences⟩ := hoption.takes
    rw [hoccurrences]
    exact htakes.append ih

/-- A command line that gives arguments gives what its occurrences say. -/
theorem takes_ofTexts {words : List String} {args : Arguments} (h : ofTexts words = .ok args) :
    ({} : Arguments).Takes args (occurrencesOf words) := by
  unfold ofTexts ofWords at h
  unfold occurrencesOf
  split at h
  · cases h
  · next hclassified =>
    rw [hclassified]
    exact (reads_of_read h).2.takes

/-- The last argument of a switch is one that the switch allows. -/
theorem Takes.allows_last {a b : Arguments} {os : List Occurrence} {s : Switch} {text : List Char} (h : a.Takes b os)
    (hlast : lastArgument s os = some text) : allows s text = true := by
  obtain ⟨o, ho, htext⟩ := List.mem_filterMap.mp (List.mem_of_getLast? hlast)
  unfold valueOf at htext
  split at htext
  · next hs => exact hs ▸ h.allowed o ho text htext
  · cases htext

end Arguments

end AccelProbe
