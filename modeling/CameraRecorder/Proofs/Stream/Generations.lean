import CameraRecorder.Proofs.Stream.Stage
import CameraRecorder.Proofs.Stream.Stretch

/-!
# The generation of a file

A file, and every attempt to open one, is dated by how often the stream had been stopped when the
attempt was made (`Stream.generation?`). The date only changes when a file is closed or another
attempt is made, and the journal tells that the file was opened after so many stops
(`Stream.Stamped`).
-/

namespace CameraRecorder

/-- The date of the attempt to open a file that a task is part of. -/
def Task.generation? : Task → Option Nat
  | naming _ generation => some generation
  | creating _ generation _ => some generation
  | _ => none

/-- The writer was asked to open a file after at least `n` stops, and not again since. -/
def OpenedAfter (n : Nat) (journal : List Entry) : Prop :=
  ∃ pre e post, journal = pre ++ e :: post ∧ e.isInit = true ∧ (∀ e' ∈ post, e'.isInit = false) ∧
    n ≤ pre.countP Entry.isStop

theorem OpenedAfter.append {n : Nat} {journal es : List Entry} (h : OpenedAfter n journal)
    (hes : ∀ e ∈ es, e.isInit = false) : OpenedAfter n (journal ++ es) := by
  obtain ⟨pre, e, post, rfl, hinit, hpost, hle⟩ := h
  refine ⟨pre, e, post ++ es, by simp, hinit, fun e' he' => ?_, hle⟩
  rcases List.mem_append.mp he' with he' | he'
  · exact hpost e' he'
  · exact hes e' he'

theorem OpenedAfter.mono {n k : Nat} {journal : List Entry} (h : OpenedAfter n journal)
    (hle : k ≤ n) : OpenedAfter k journal := by
  obtain ⟨pre, e, post, hjournal, hinit, hpost, hn⟩ := h
  exact ⟨pre, e, post, hjournal, hinit, hpost, Nat.le_trans hle hn⟩

/-- The stops before the last file was opened are counted. -/
theorem OpenedAfter.le_countP {n : Nat} {journal : List Entry} (h : OpenedAfter n journal) :
    n ≤ (journal.reverse.dropWhile (!·.isInit)).countP Entry.isStop := by
  obtain ⟨pre, e, post, rfl, hinit, hpost, hle⟩ := h
  have hlater : ∀ e' ∈ post.reverse, (!e'.isInit) = true := fun e' he' => by
    rw [hpost e' (List.mem_reverse.mp he')]
    rfl
  rw [List.reverse_append, List.reverse_cons, List.append_assoc,
    List.dropWhile_append_of_pos hlater, List.singleton_append,
    List.dropWhile_cons_of_neg (by simp [hinit]), List.countP_cons, List.countP_reverse]
  omega

namespace Stream

variable {s s' : Stream} {m : Move} {es : List Entry}

/-- The date of the open file, or of the attempt to open one. -/
def generation? (s : Stream) : Option Nat :=
  (s.activity.task?.bind Task.generation?).or (s.file.map (·.generation))

theorem generation?_awake {en : Bool} {task : Task} (h : s.activity = .awake en task) :
    s.generation? = task.generation?.or (s.file.map (·.generation)) := by
  rw [generation?, h]
  rfl

theorem generation?_resting (h : s.activity.task? = none) :
    s.generation? = s.file.map (·.generation) := by
  rw [generation?, h]
  rfl

/-- **How the date changes.** It stays, or there is none any more, or an attempt is made now. -/
theorem Step.generation (h : Step s m s' es) (hs : s.Shaped) :
    s'.generation? = s.generation? ∨ s'.generation? = none ∨
      s'.generation? = some s.stops ∧ ∃ ticket, s.activity = .awake true (.opening ticket) := by
  have hkept {f f' : Option OpenFile} (hbirth : f'.map OpenFile.birth = f.map OpenFile.birth) :
      f'.map (·.generation) = f.map (·.generation) := by
    have := congrArg (Option.map fun birth => birth.2.1) hbirth
    rwa [Option.map_map, Option.map_map] at this
  rcases h.birth with hbirth | ⟨en, ticket, generation, path, hact, hact', hgen⟩
    | ⟨en, next, hact, hact', hnone, -⟩
  · have hfile := hkept hbirth
    cases hact : s.activity with
    | asleep | stopped | crashed =>
      have hrest : s.activity.task? = none := by
        rw [hact]
        rfl
      refine .inl ?_
      rw [generation?_resting hrest]
      rcases h.of_resting hrest with ⟨-, -, -, hact'⟩ | ⟨hsame, -⟩
      · rw [generation?_awake hact', hfile]
        cases s.isEnabled <;> cases s.isInterrupted <;> rfl
      · rw [generation?_resting (hsame ▸ hrest), hfile]
    | awake en task =>
      rw [generation?_awake hact]
      rcases h.leads hact with hsame | ⟨task', hact', hleads⟩ | ⟨-, rfl, -, hasleep⟩ | ⟨rfl, rfl⟩
      · exact .inl (by rw [generation?_awake hsame, hfile])
      · rw [generation?_awake hact', hfile]
        cases hleads with
        | askName hen _ => exact .inr (.inr ⟨rfl, _, by rw [hen]⟩)
        | nameless | create | fail =>
          rw [hs.file_eq_none hact rfl]
          exact .inr (.inl rfl)
        | @resume next => cases next <;> exact .inl rfl
        | _ => exact .inl rfl
      · exact .inl (by rw [generation?_resting (by rw [hasleep]; rfl), hfile]; rfl)
      · exact .inl (by rw [generation?_resting s.task?_retire, hfile]; rfl)
  · refine .inl ?_
    rw [generation?_awake hact, generation?_awake hact', hgen]
    rfl
  · refine .inr (.inl ?_)
    rw [generation?_awake hact', hnone]
    cases next <;> rfl

/-- While a file is open or being opened, its date stays. -/
theorem Step.generation_kept (h : Step s m s' es) (hs : s.Shaped) (hopen : s.fileStage ≠ .closed)
    {generation : Nat} (hg : s'.generation? = some generation) :
    s.generation? = some generation := by
  rcases h.generation hs with hsame | hnone | ⟨-, ticket, hact⟩
  · exact hsame.symm.trans hg
  · cases hnone.symm.trans hg
  · exact absurd (fileStage_bare hact rfl (hs.file_eq_none hact rfl)) hopen

/-- Every date was once the present one. -/
theorem Dated.generation (hd : s.Dated) {generation : Nat} (hg : s.generation? = some generation) :
    s.Dates generation := by
  unfold generation? at hg
  cases htask : s.activity.task?.bind Task.generation? with
  | none =>
    rw [htask, Option.none_or] at hg
    obtain ⟨f, hfile, rfl⟩ := Option.map_eq_some_iff.mp hg
    exact hd.file f hfile
  | some g =>
    rw [htask, Option.some_or] at hg
    cases hg
    obtain ⟨task, hact, hgen⟩ := Option.bind_eq_some_iff.mp htask
    cases h : s.activity with
    | asleep | stopped | crashed => simp [h, Activity.task?] at hact
    | awake en task' =>
      have htask' : task' = task := by simpa [h, Activity.task?] using hact
      subst htask'
      cases task' with
      | naming _ _ =>
        cases hgen
        exact hd.naming _ _ _ h
      | creating _ _ _ =>
        cases hgen
        exact hd.creating _ _ _ _ h
      | _ => cases hgen

/-! ## Stamps -/

/-- What a journal tells of the stops of a stream and of the date of its file. -/
structure Stamped (s : Stream) (journal : List Entry) : Prop where
  stops : s.stops = journal.countP Entry.isStop
  opened : s.fileStage ≠ .closed → ∀ generation, s.generation? = some generation →
    OpenedAfter generation journal

theorem stamped_create (handle : StreamHandle) (config : StreamConfig) :
    (create handle config).Stamped [] := ⟨rfl, fun h => absurd rfl h⟩

/-- The writer is only asked to open a file when the file has a name. -/
theorem Step.of_init (h : Step s m s' es) {e : Entry} (he : e ∈ es) (hinit : e.isInit = true) :
    ∃ (request : Option (UInt32 × Nat)) (en : Bool) (ticket : Ticket) (generation : Nat)
        (path : Path),
      s.activity = .awake en (.naming ticket generation) ∧
      s'.activity = .awake en (.creating ticket generation path) ∧
      es = (request.map fun r => Entry.names r.1 r.2).toList ++ [e] := by
  have hmakes := h.makes e he
  unfold Entry.isInit at hinit
  split at hinit
  · obtain ⟨request, name, en, ticket, generation, rfl, hact, hes⟩ := hmakes
    cases h with
    | name h =>
      cases hact.symm.trans h
      exact ⟨_, _, _, _, _, hact, rfl, hes⟩
    | misnamed =>
      have := congrArg List.length hes
      simp at this
    | idle => cases he
    | accept hm => rcases hm with hm | hm <;> cases hm
  · cases hinit

theorem Step.stamped (h : Step s m s' es) (hs : s.Shaped) (hd : s.Dated) {journal : List Entry}
    (hst : s.Stamped journal) : s'.Stamped (journal ++ es) := by
  refine ⟨?_, fun hopen generation hg => ?_⟩
  · rw [h.stops, hst.stops, List.countP_append]
  · by_cases hinit : ∃ e ∈ es, e.isInit = true
    · obtain ⟨e, he, hinit⟩ := hinit
      obtain ⟨request, en, ticket, g, path, hact, hact', hes⟩ := h.of_init he hinit
      rw [generation?_awake hact'] at hg
      cases hg
      -- the attempt was dated when its name was asked for
      have hdate := (hd.naming _ _ _ hact).1
      rw [hst.stops] at hdate
      refine ⟨journal ++ (request.map fun r => Entry.names r.1 r.2).toList, e, [], ?_, hinit,
        nofun, ?_⟩
      · rw [hes, List.append_assoc]
      · rw [List.countP_append]
        omega
    · have hnone : ∀ e ∈ es, e.isInit = false := fun e he => by
        by_contra hne
        exact hinit ⟨e, he, by simpa using hne⟩
      have hopen₀ : s.fileStage ≠ .closed := by
        intro hclosed
        have hfollows := h.follows hs
        rw [Follows, hclosed] at hfollows
        exact hopen (FileStage.eq_closed hfollows hnone)
      exact (hst.opened hopen₀ generation (h.generation_kept hs hopen₀ hg)).append hnone

theorem stamped_run (handle : StreamHandle) (config : StreamConfig) (ms : List Move) :
    ((create handle config).run ms).1.Stamped ((create handle config).run ms).2 :=
  (run_induction (P := fun journal s => s.Shaped ∧ s.Dated ∧ s.Stamped journal)
    (fun hmove ⟨hs, hd, hst⟩ => ⟨hmove.shaped hs, hmove.dated hd, hmove.stamped hs hd hst⟩)
    ⟨shaped_create handle config, dated_create handle config, stamped_create handle config⟩
    ms).2.2

end Stream

end CameraRecorder
