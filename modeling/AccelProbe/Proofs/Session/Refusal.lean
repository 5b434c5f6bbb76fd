import AccelProbe.Proofs.Configuration.Loading
import AccelProbe.Session

/-!
# Sessions that are refused

A command line that gives no arguments, and arguments that give no configuration, end a session before it has done anything: no
library was loaded or called, and the environment and the loggers are as they were. Only the help text is written, where it is asked
for.
-/

namespace AccelProbe

/-- Whether a session left everything around it as it was. -/
structure Outcome.Untouched (s : Surroundings) (o : Outcome) : Prop where
  /-- The environment and the loggers are as they were. -/
  host : o.host = s.host
  /-- Nothing happened between the session and the libraries. -/
  history : o.history = []
  /-- Torch was neither loaded nor called. -/
  torchCalls : o.torchCalls = []
  /-- TensorFlow was neither loaded nor called. -/
  tensorflowCalls : o.tensorflowCalls = []

namespace Session

/-- A session that ends without a history and on the host that it found left everything as it was. -/
theorem untouched_of_ending (s : Surroundings) (ending : Ending) :
    Outcome.Untouched s { ending := ending, host := s.host } := ⟨rfl, rfl, rfl, rfl⟩

/-- A refused session ends with what it was refused for and touches nothing: with the exit of a command line that gives no
arguments, and otherwise with the fault of its configuration. Its arguments give no configuration exactly when the document that
they name is unusable. -/
theorem refused_untouched (s : Surroundings) (words : List String) :
    let o := run s words
    (∀ stop, Arguments.ofTexts words = .error stop →
      o.ending = .exited (stop.exit s.host.environment.columns) ∧ o.Untouched s ∧
        o.output = if stop = .helpAsked then Help.text s.host.environment.columns else "") ∧
    ∀ args, Arguments.ofTexts words = .ok args →
      ((∃ fault, Configuration.build s.files args = .error fault) ↔
        args.config.isNull = false ∧ Configuration.Unusable s.files args.config) ∧
      ∀ fault, Configuration.build s.files args = .error fault →
        o.ending = .unconfigured fault ∧ o.Untouched s ∧ o.output = "" := by
  refine ⟨fun stop hstop => ?_, fun args hargs => ⟨Configuration.exists_build_error_iff, fun fault hfault => ?_⟩⟩
  · have hrun : run s words = { ending := .exited (stop.exit s.host.environment.columns), host := s.host } := by
      rw [run, hstop]
    rw [hrun]
    refine ⟨rfl, untouched_of_ending s _, ?_⟩
    cases stop with
    | helpAsked => rfl
    | wrong fault => rfl
  · have hrun : run s words = { ending := .unconfigured fault, host := s.host } := by
      rw [run, hargs]
      dsimp only
      rw [hfault]
    rw [hrun]
    exact ⟨rfl, untouched_of_ending s _, rfl⟩

/-- Surroundings with a directory at one path and nothing else. -/
def bare (path : String) : Surroundings where
  files := fun p => if p = path then some .directory else none
  host := {}
  libraries := fun _ _ => .ok .null

/-- A session whose document is a directory ends with that and touches nothing. -/
theorem refused_untouched_directory :
    let s := bare "probe.toml"
    let o := run s ["-c", "probe.toml"]
    o.ending = .unconfigured (.isDirectory (.str "probe.toml")) ∧ o.Untouched s ∧ o.output = "" :=
  ((refused_untouched (bare "probe.toml") ["-c", "probe.toml"]).2 { config := .str "probe.toml" } rfl).2 _ rfl

end Session

end AccelProbe
