import AccelProbe.Proofs.Program.Trace

/-!
# Runs that the world does not tell apart

What a program does depends on its world only from where it begins. Behind two histories where the worlds answer alike it does the same,
whatever was different before. Neither does it depend on the answers to calls that it does not make: a world whose answers are mended
where they are not as they should be makes no difference to a run that met with no such answer.
-/

namespace AccelProbe

/-- Whether two worlds answer alike, whatever happens behind two histories. -/
structure World.AlikeBehind {Call : Type} (w w' : World Call) (h h' : History Call) : Prop where
  /-- Calls are answered alike. -/
  answer : ∀ added c, w'.answer (h' ++ added) c = w.answer (h ++ added) c
  /-- Lines are taken alike. -/
  take : ∀ added line, w'.take (h' ++ added) line = w.take (h ++ added) line

namespace World.AlikeBehind

variable {Call : Type} {w w' : World Call} {h h' : History Call}

/-- They answer alike behind one more event, too. -/
theorem snoc (ha : w.AlikeBehind w' h h') (event : Event Call) : w.AlikeBehind w' (h ++ [event]) (h' ++ [event]) where
  answer added c := by
    rw [List.append_assoc, List.append_assoc]
    exact ha.answer _ c
  take added line := by
    rw [List.append_assoc, List.append_assoc]
    exact ha.take _ line

theorem answer_eq (ha : w.AlikeBehind w' h h') (c : Call) : w'.answer h' c = w.answer h c := by
  have := ha.answer [] c
  rwa [List.append_nil, List.append_nil] at this

theorem take_eq (ha : w.AlikeBehind w' h h') (line : Value) : w'.take h' line = w.take h line := by
  have := ha.take [] line
  rwa [List.append_nil, List.append_nil] at this

end World.AlikeBehind

namespace Program

variable {Call α : Type}

/-- A program does the same behind two histories where the worlds answer alike. -/
theorem run_behind {w w' : World Call} {h h' : History Call} (p : Program Call α) (ha : w.AlikeBehind w' h h') :
    ∃ added r, p.run w h = (h ++ added, r) ∧ p.run w' h' = (h' ++ added, r) := by
  induction p generalizing h h' with
  | done a => exact ⟨[], .ok a, by rw [List.append_nil]; rfl, by rw [List.append_nil]; rfl⟩
  | fail e => exact ⟨[], .error e, by rw [List.append_nil]; rfl, by rw [List.append_nil]; rfl⟩
  | call c next ih =>
    obtain ⟨added, r, hrun, hrun'⟩ := ih (w.answer h c) (ha.snoc (.called c (w.answer h c)))
    refine ⟨.called c (w.answer h c) :: added, r, ?_, ?_⟩
    · rw [run, hrun, List.append_assoc]
      rfl
    · rw [run, ha.answer_eq, hrun', List.append_assoc]
      rfl
  | write line next ih =>
    obtain ⟨added, r, hrun, hrun'⟩ := ih (w.take h line) (ha.snoc (.wrote line (w.take h line)))
    refine ⟨.wrote line (w.take h line) :: added, r, ?_, ?_⟩
    · rw [run, hrun, List.append_assoc]
      rfl
    · rw [run, ha.take_eq, hrun', List.append_assoc]
      rfl
  | log record next ih =>
    obtain ⟨added, r, hrun, hrun'⟩ := ih (ha.snoc (.logged record))
    refine ⟨.logged record :: added, r, ?_, ?_⟩
    · rw [run, hrun, List.append_assoc]
      rfl
    · rw [run, hrun', List.append_assoc]
      rfl

end Program

/-! ## A world that is mended -/

variable {Call α : Type}

/-- Whether every call in a history was answered as it should be. -/
def History.Answered (h : History Call) (right : Call → Reply → Prop) : Prop := ∀ c reply, .called c reply ∈ h → right c reply

namespace World

variable {right : Call → Reply → Prop} {own : Call → Reply}

open Classical in
/-- A world that answers as another one does where that answers as it should, and else by answers of its own. -/
noncomputable def mended (w : World Call) (right : Call → Reply → Prop) (own : Call → Reply) : World Call where
  answer := fun h c => if right c (w.answer h c) then w.answer h c else own c
  take := w.take

/-- An answer that is as it should be is not mended. -/
theorem mended_answer {w : World Call} {h : History Call} {c : Call} (hr : right c (w.answer h c)) :
    (w.mended right own).answer h c = w.answer h c :=
  if_pos hr

/-- A mended world always answers as it should. -/
theorem right_mended (w : World Call) (hown : ∀ c, right c (own c)) (h : History Call) (c : Call) :
    right c ((w.mended right own).answer h c) := by
  by_cases hr : right c (w.answer h c)
  · rw [mended_answer hr]
    exact hr
  · have hanswer : (w.mended right own).answer h c = own c := if_neg hr
    rw [hanswer]
    exact hown c

end World

/-- Behind one more event, a run is answered as it should be where it was with that event. -/
theorem History.Answered.of_cons {right : Call → Reply → Prop} {event : Event Call} {h : History Call}
    (ha : History.Answered (event :: h) right) : h.Answered right :=
  fun c reply hm => ha c reply (List.mem_cons_of_mem event hm)

/-- A run in a world that always answers as it should is answered so. -/
theorem Program.answered_of_run {w : World Call} {right : Call → Reply → Prop} (hw : ∀ h c, right c (w.answer h c))
    {p : Program Call α} {h added : History Call} {r : Except Failure α} (hrun : p.run w h = (h ++ added, r)) :
    added.Answered right := by
  obtain ⟨events, hevents, -, hy⟩ := run_trace w p h
  obtain rfl : added = events := by
    rw [hrun] at hevents
    exact List.append_cancel_left hevents
  intro c reply hm
  obtain ⟨before, rfl⟩ := hy _ hm
  exact hw before c

/-- What a run adds behind its first event is answered as it should be, together with that event. -/
theorem Program.answered_behind {w : World Call} {right : Call → Reply → Prop} {p : Program Call α} {h : History Call}
    (q : Program Call α) (event : Event Call) (hstep : p.run w h = q.run w (h ++ [event]))
    (hright : ∀ added r, p.run w h = (h ++ added, r) → added.Answered right) (added : History Call) (r : Except Failure α)
    (hrun : q.run w (h ++ [event]) = (h ++ [event] ++ added, r)) : History.Answered (event :: added) right := by
  refine hright _ r ?_
  rw [hstep, hrun, List.append_assoc]
  rfl

/-- A run that was answered as it should be is the same in the mended world. -/
theorem Program.run_mended {w : World Call} {right : Call → Reply → Prop} {own : Call → Reply} {p : Program Call α}
    {h : History Call} (hright : ∀ added r, p.run w h = (h ++ added, r) → added.Answered right) :
    p.run (w.mended right own) h = p.run w h := by
  induction p generalizing h with
  | done a => rfl
  | fail e => rfl
  | call c next ih =>
    have hrest := answered_behind (next (w.answer h c)) (.called c (w.answer h c)) rfl hright
    -- the answer to this call is as it should be, whatever the run adds behind it
    obtain ⟨added, hadded, -⟩ := run_trace w (next (w.answer h c)) (h ++ [.called c (w.answer h c)])
    have hfirst : right c (w.answer h c) := hrest added _ (Prod.ext hadded rfl) _ _ List.mem_cons_self
    rw [run, run, World.mended_answer hfirst]
    exact ih _ fun added r hrun => (hrest added r hrun).of_cons
  | write line next ih =>
    have hrest := answered_behind (next (w.take h line)) (.wrote line (w.take h line)) rfl hright
    exact ih _ fun added r hrun => (hrest added r hrun).of_cons
  | log record next ih =>
    have hrest := answered_behind next (.logged record) rfl hright
    exact ih fun added r hrun => (hrest added r hrun).of_cons

end AccelProbe
