import AccelProbe.Logging.Level

/-!
# The tree of loggers

Loggers come into being when they are named first. The logger above a new one is the nearest one that is there already, among the
names that a point of its own name ends, or else the root; at every name that is passed on the way up the new logger is kept in
mind. Once a logger of such a name comes into being, the loggers that were kept in mind for it are hung below it.

A logger that has no level of its own has that of the nearest logger above it that has one. What it makes of a record of some
level it keeps for further records of this level, until the level of any logger is set; a logger that is hung below another one in
between does not notice.
-/

namespace AccelProbe

/-- A logger other than the root. -/
structure Logger where
  /-- Its own level; zero where it has none. -/
  level : Int := Level.unset
  /-- The name of the logger above it, if that is not the root. -/
  parent : Option String := none
  /-- Whether records of a level pass, for the levels that were decided. -/
  decisions : List (Int × Bool) := []
deriving DecidableEq, Repr, Inhabited

/-- What is known under a name. -/
inductive LoggerEntry where
  /-- A logger. -/
  | logger (g : Logger)
  /-- No logger so far, but loggers further below, by their names. -/
  | awaited (below : List String)
deriving DecidableEq, Repr

namespace LoggerEntry

/-- An entry without the decisions that were made. -/
def forget : LoggerEntry → LoggerEntry
  | logger g => logger { g with decisions := [] }
  | awaited below => awaited below

/-- The own level of the logger of an entry; zero where there is none. -/
def level : LoggerEntry → Int
  | logger g => g.level
  | awaited _ => Level.unset

end LoggerEntry

/-- The loggers other than the root, by their names. -/
structure LoggerTree where
  /-- The names with what is known under them. -/
  entries : List (String × LoggerEntry) := []
deriving DecidableEq, Repr, Inhabited

namespace LoggerTree

/-- The name of the root. -/
def rootName : String := "root"

/-- The names above a name that is given in reverse, the nearest first: what stands before a point. The character before a point
that was found is passed over in the search for the next. -/
def above (passOver : Bool) : List Char → List (List Char)
  | [] => []
  | c :: rest =>
    if c = '.' && !passOver then (if rest.isEmpty then [] else rest.reverse :: above true rest)
    else above false rest

/-- The names above a name, the nearest first. -/
def namesAbove (name : String) : List String := (above false name.toList.reverse).map String.ofList

/-- What is known under a name. -/
def find? (t : LoggerTree) (name : String) : Option LoggerEntry := t.entries.lookup name

/-- The logger of a name. -/
def logger? (t : LoggerTree) (name : String) : Option Logger :=
  match t.find? name with
  | some (.logger g) => some g
  | _ => none

/-- The own level of a logger; zero where it has none. -/
def level (t : LoggerTree) (name : String) : Int := ((t.find? name).map LoggerEntry.level).getD Level.unset

/-- The tree with another entry under a name. -/
def put (t : LoggerTree) (name : String) (e : LoggerEntry) : LoggerTree where
  entries := (name, e) :: t.entries.filter (·.1 != name)

/-- The tree with a logger changed. -/
def update (t : LoggerTree) (name : String) (f : Logger → Logger) : LoggerTree :=
  match t.logger? name with
  | some g => t.put name (.logger (f g))
  | none => t

/-- Finds the logger above a new one among some names, and keeps the new one in mind at the names before. -/
def climb (t : LoggerTree) (newcomer : String) : List String → LoggerTree × Option String
  | [] => (t, none)
  | name :: rest =>
    match t.find? name with
    | some (.logger _) => (t, some name)
    | some (.awaited below) => (t.put name (.awaited (newcomer :: below))).climb newcomer rest
    | none => (t.put name (.awaited [newcomer])).climb newcomer rest

/-- Hangs a logger below a new one. A logger stays where it is when the name of the one above it begins with the new name. -/
def hang (newcomer : String) (t : LoggerTree) (name : String) : LoggerTree :=
  t.update name fun g =>
    if newcomer.toList.isPrefixOf (g.parent.getD rootName).toList then g else { g with parent := some newcomer }

/-- The loggers that are kept in mind under a name. -/
def waiting (t : LoggerTree) (name : String) : List String :=
  match t.find? name with
  | some (.awaited below) => below
  | _ => []

/-- The tree with a logger of this name, which comes into being if it is not there. -/
def add (t : LoggerTree) (name : String) : LoggerTree :=
  match t.logger? name with
  | some _ => t
  | none =>
    let (t, parent) := ((t.waiting name).foldl (hang name) t).climb name (namesAbove name)
    t.put name (.logger { parent })

/-- The level of the nearest logger that has one on the way up from a logger, or else that of the root. The name of a logger is
longer than that of the one above it, so its length bounds the way. -/
def levelFrom (t : LoggerTree) (rootLevel : Int) : Nat → Option String → Int
  | bound + 1, some name =>
    match t.logger? name with
    | some g => if g.level = Level.unset then t.levelFrom rootLevel bound g.parent else g.level
    | none => rootLevel
  | _, _ => rootLevel

/-- The level that a record has to reach at a logger. -/
def threshold (t : LoggerTree) (rootLevel : Int) (name : String) : Int := t.levelFrom rootLevel (name.length + 1) (some name)

/-- The tree without the decisions that were made. -/
def forget (t : LoggerTree) : LoggerTree where
  entries := t.entries.map fun e => (e.1, e.2.forget)

/-- The tree with another level for a logger. -/
def setLevel (t : LoggerTree) (name : String) (level : Int) : LoggerTree :=
  ((t.add name).update name fun g => { g with level }).forget

/-- Whether a record of this level passes a logger. A record of level zero or less never does. -/
def decision (t : LoggerTree) (rootLevel : Int) (name : String) (level : Int) : Bool :=
  match (t.logger? name).bind (·.decisions.lookup level) with
  | some passed => passed
  | none => decide (0 < level ∧ t.threshold rootLevel name ≤ level)

/-- A record of this level goes through a logger: the tree afterwards, and whether the record passes. -/
def judge (t : LoggerTree) (rootLevel : Int) (name : String) (level : Int) : LoggerTree × Bool :=
  let t := t.add name
  let passed := t.decision rootLevel name level
  (t.update name fun g => { g with decisions := (level, passed) :: g.decisions }, passed)

/-- Another entry under a name changes no other one. -/
theorem find?_put (t : LoggerTree) (name other : String) (e : LoggerEntry) :
    (t.put name e).find? other = if other = name then some e else t.find? other := by
  by_cases ho : other = name
  · subst ho
    simp [find?, put]
  · have hb : (other == name) = false := beq_eq_false_iff_ne.mpr ho
    have hl : (t.entries.filter (·.1 != name)).lookup other = t.entries.lookup other := by
      induction t.entries with
      | nil => rfl
      | cons entry rest ih =>
        obtain ⟨key, e'⟩ := entry
        by_cases hk : key = name
        · subst hk
          simp [List.lookup_cons, hb, ih]
        · simp [List.lookup_cons, hk, ih]
    simp [find?, put, List.lookup_cons, ho, hb, hl]

/-- The level of a logger after another entry came under a name. -/
theorem level_put (t : LoggerTree) (name other : String) (e : LoggerEntry) :
    (t.put name e).level other = if other = name then e.level else t.level other := by
  unfold level
  rw [find?_put]
  split <;> simp

/-- A logger that is found has the level of its name. -/
theorem level_of_logger? {t : LoggerTree} {name : String} {g : Logger} (h : t.logger? name = some g) :
    t.level name = g.level := by
  unfold logger? at h
  split at h
  · next g' hg =>
    cases h
    simp [level, hg, LoggerEntry.level]
  · cases h

/-- A name without a logger has no level. -/
theorem level_of_logger?_eq_none {t : LoggerTree} {name : String} (h : t.logger? name = none) : t.level name = Level.unset := by
  unfold logger? at h
  unfold level
  match he : t.find? name with
  | none => rfl
  | some (.awaited _) => rfl
  | some (.logger g) => simp [he] at h

/-- To climb changes no level. -/
theorem level_climb (t : LoggerTree) (newcomer other : String) (names : List String) :
    (t.climb newcomer names).1.level other = t.level other := by
  induction names generalizing t with
  | nil => rfl
  | cons name rest ih =>
    unfold climb
    split
    · rfl
    · next below he =>
      rw [ih, level_put]
      split
      · next ho => simp [ho, level, he, LoggerEntry.level]
      · rfl
    · next he =>
      rw [ih, level_put]
      split
      · next ho => simp [ho, level, he, LoggerEntry.level]
      · rfl

/-- To hang loggers below a new one changes no level. -/
theorem level_hang (newcomer : String) (t : LoggerTree) (name other : String) :
    (hang newcomer t name).level other = t.level other := by
  unfold hang update
  split
  · next g hg =>
    rw [level_put]
    split
    · next ho =>
      rw [ho, level_of_logger? hg]
      simp only [LoggerEntry.level]
      split <;> rfl
    · rfl
  · rfl

/-- The coming into being of a logger changes no level. -/
theorem level_add (t : LoggerTree) (name other : String) : (t.add name).level other = t.level other := by
  unfold add
  split
  · rfl
  · next h =>
    have hf : ∀ (names : List String) (t : LoggerTree), (names.foldl (hang name) t).level other = t.level other := by
      intro names
      induction names with
      | nil => intro t; rfl
      | cons n rest ih => intro t; rw [List.foldl_cons, ih, level_hang]
    simp only [level_put]
    split
    · next ho => rw [ho, level_of_logger?_eq_none h]; rfl
    · rw [level_climb, hf]

/-- To forget decisions changes no level. -/
theorem level_forget (t : LoggerTree) (name : String) : t.forget.level name = t.level name := by
  unfold level find? forget
  induction t.entries with
  | nil => rfl
  | cons e rest ih =>
    obtain ⟨key, entry⟩ := e
    simp only [List.map_cons, List.lookup_cons]
    split
    · cases entry <;> rfl
    · exact ih

/-- There is a logger of a name once it came into being. -/
theorem logger?_add (t : LoggerTree) (name : String) : ∃ g, (t.add name).logger? name = some g := by
  unfold add
  split
  · next g h => exact ⟨g, h⟩
  · simp [logger?, find?_put]

/-- Setting the level of a logger changes the level of no other one. -/
theorem level_setLevel (t : LoggerTree) (name other : String) (level : Int) :
    (t.setLevel name level).level other = if other = name then level else t.level other := by
  obtain ⟨g, hg⟩ := logger?_add t name
  simp only [setLevel, level_forget, update, hg, level_put, LoggerEntry.level, level_add]

end LoggerTree

end AccelProbe
