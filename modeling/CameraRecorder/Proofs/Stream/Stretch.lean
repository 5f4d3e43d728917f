import CameraRecorder.Proofs.Stream.Wakes

/-!
# Stretches without a stop

A stretch of a run in which the stream is not stopped and no attempt to open a file fails
(`Stream.undisturbed`). In it the stream stays enabled and the count of stops stays as it is, so a
file that is live, opened since the last stop, stays so. A file, and every attempt to open one, is
dated while the stream is enabled (`Stream.Dated`).
-/

namespace CameraRecorder

namespace Stream

variable {s s' : Stream} {m : Move} {es : List Entry}

/-! ## Undisturbed moves -/

/-- Whether a move stops the stream or makes the opening of a file fail. -/
def disturbs (s : Stream) : Move → Bool
  | .stop | .shutDown => true
  | .named _ (.error _) => s.activity.task?.any fun task => (task matches .naming ..)
  | .reply (some _) => s.activity.task?.any fun task => (task matches .creating ..)
  | _ => false

/-- Whether no move of a series disturbs. -/
def undisturbed (s : Stream) : List Move → Bool
  | [] => true
  | m :: ms => !s.disturbs m && (s.move m).1.undisturbed ms

theorem undisturbed_cons {ms : List Move} (h : s.undisturbed (m :: ms) = true) :
    s.disturbs m = false ∧ (s.move m).1.undisturbed ms = true := by
  simpa [undisturbed] using h

theorem undisturbed_append {ms ns : List Move} (h : s.undisturbed (ms ++ ns) = true) :
    s.undisturbed ms = true ∧ (s.run ms).1.undisturbed ns = true := by
  induction ms generalizing s with
  | nil => exact ⟨rfl, h⟩
  | cons m ms ih =>
    obtain ⟨hm, hrest⟩ := undisturbed_cons h
    obtain ⟨hms, hns⟩ := ih hrest
    exact ⟨by simp [undisturbed, hm, hms], hns⟩

theorem no_stop_of_undisturbed (hm : s.disturbs m = false) : m ≠ .stop ∧ m ≠ .shutDown := by
  constructor <;> rintro rfl <;> cases hm

/-! ## Live files -/

/-- Whether a file is open that was opened since the last stop. -/
def isLive (s : Stream) : Bool := s.file.any fun file => file.generation = s.stops

theorem isLive_eq (s : Stream) : s.isLive = (s.file.isSome && !s.isInterrupted) := by
  unfold isLive isInterrupted
  cases s.file with
  | none => rfl
  | some file => simp

theorem isLive_none (h : s.file = none) : s.isLive = false := by
  rw [isLive, h]
  rfl

@[simp] theorem isLive_setLane (s : Stream) (l : Lane) (kind : LaneKind) :
    (s.setLane l kind).isLive = s.isLive := by
  cases kind <;> rfl

@[simp] theorem isLive_withSnapshots (s : Stream) (waiting : Lane) (kept : Option Ticket) :
    (s.withSnapshots waiting kept).isLive = s.isLive := by
  cases hfile : s.file <;> simp [isLive, withSnapshots, hfile]

theorem isLive_collectThumbnail (s : Stream) : s.collectThumbnail.1.isLive = s.isLive := by
  obtain ⟨waiting, kept, h⟩ := s.exists_collectThumbnail
  rw [h, isLive_withSnapshots]

theorem stays_run {ms : List Move} (hms : s.undisturbed ms = true) (hen : s.isEnabled = true) :
    (s.run ms).1.isEnabled = true := by
  induction ms generalizing s with
  | nil => exact hen
  | cons m ms ih =>
    obtain ⟨hm, hms⟩ := undisturbed_cons hms
    exact ih hms (((s.step_move m).stays (no_stop_of_undisturbed hm)).2 hen)

/-! ## Dates -/

/-- A date at which the stream was enabled: it is the present one only if the stream still is. -/
def Dates (s : Stream) (generation : Nat) : Prop :=
  generation ≤ s.stops ∧ (generation = s.stops → s.isEnabled = true)

/-- Files, and attempts to open one, are dated while the stream is enabled. -/
structure Dated (s : Stream) : Prop where
  file : ∀ f, s.file = some f → s.Dates f.generation
  naming : ∀ en ticket generation, s.activity = .awake en (.naming ticket generation) →
    s.Dates generation
  creating : ∀ en ticket generation path,
    s.activity = .awake en (.creating ticket generation path) → s.Dates generation

theorem dated_create (handle : StreamHandle) (config : StreamConfig) :
    (create handle config).Dated :=
  ⟨nofun, nofun, nofun⟩

/-- **No file is live on a disabled stream.** -/
theorem Dated.not_isLive (hd : s.Dated) (hen : s.isEnabled = false) : s.isLive = false := by
  unfold isLive
  cases hfile : s.file with
  | none => rfl
  | some f =>
    have hdate := (hd.file f hfile).2
    rw [hen] at hdate
    simpa using hdate

/-- A stop puts every date behind. -/
theorem Dates.of_stopped {generation : Nat} (hd : s.Dates generation)
    (hstops : s'.stops = s.stops + 1) : s'.Dates generation := by
  have hle := hd.1
  refine ⟨by omega, fun heq => ?_⟩
  omega

/-- Dates are kept. -/
theorem Step.dates (h : Step s m s' es) {generation : Nat} (hd : s.Dates generation) :
    s'.Dates generation := by
  by_cases hm : m = .stop ∨ m = .shutDown
  · rcases h.of_stop hm with ⟨rfl, -⟩ | ⟨hstops, -⟩
    · exact hd
    · exact hd.of_stopped hstops
  -- without a stop the present is as it was
  · obtain ⟨hstops, hen⟩ := h.stays (not_or.mp hm)
    exact ⟨hstops ▸ hd.1, fun heq => hen (hd.2 (hstops ▸ heq))⟩

/-- Every date is one of the state before, or the present one. -/
theorem Step.dated (h : Step s m s' es) (hd : s.Dated) : s'.Dated where
  file f hf := h.dates <| by
    rcases h.birth with hbirth | ⟨en, ticket, generation, path, hact, -, hgen⟩
      | ⟨-, -, -, -, hnone, -⟩
    · rw [hf] at hbirth
      obtain ⟨f₀, hf₀, hsame⟩ := Option.map_eq_some_iff.mp hbirth.symm
      have hdate : f₀.generation = f.generation := congrArg (·.2.1) hsame
      exact hdate ▸ hd.file f₀ hf₀
    · rw [hf] at hgen
      cases hgen
      exact hd.creating _ _ _ _ hact
    · cases hnone.symm.trans hf
  naming en ticket generation hact' := h.dates <| by
    generalize htask : Task.naming ticket generation = task' at hact'
    rcases h.comes_from hact' with hsame | ⟨task, hact, hleads⟩ | ⟨-, -, -, -, rfl⟩
    · exact hd.naming en ticket generation (htask ▸ hsame)
    · cases hleads with
      | askName _ hlive =>
        -- the attempt is dated now, and the stream is enabled
        cases htask
        exact ⟨Nat.le_refl _, fun _ => hlive⟩
      | @resume next => cases next <;> cases htask
      | _ => cases htask
    · split at htask <;> cases htask
  creating en ticket generation path hact' := h.dates <| by
    generalize htask : Task.creating ticket generation path = task' at hact'
    rcases h.comes_from hact' with hsame | ⟨task, hact, hleads⟩ | ⟨-, -, -, -, rfl⟩
    · exact hd.creating en ticket generation path (htask ▸ hsame)
    · cases hleads with
      | name =>
        cases htask
        exact hd.naming _ _ _ hact
      | @resume next => cases next <;> cases htask
      | _ => cases htask
    · split at htask <;> cases htask

theorem dated_run (hd : s.Dated) (ms : List Move) : (s.run ms).1.Dated :=
  run_invariant Step.dated hd ms

end Stream

end CameraRecorder
