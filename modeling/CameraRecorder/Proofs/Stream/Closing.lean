import CameraRecorder.Proofs.Stream.Generations

/-!
# A stop closes the file that it interrupts

After a stop the open file, or the one that is being opened, is dated before the present
(`Stream.Overdue`), and stays so until it is closed, whether the stream is started again or not. The
wake that is under way takes no other frame for it; the next wake closes it before anything else if
it begins enabled, and does not end without closing it if it begins disabled.
-/

namespace CameraRecorder

/-- Somewhere along the way the file is closed. -/
def FileStage.Closes (stage : FileStage) (es : List Entry) : Prop :=
  ∃ pre, pre <+: es ∧ stage.follow? pre = some .closed

theorem FileStage.Closes.append {stage : FileStage} {es : List Entry} (h : stage.Closes es)
    (es' : List Entry) : stage.Closes (es ++ es') := by
  obtain ⟨pre, hpre, hclosed⟩ := h
  exact ⟨pre, hpre.trans (List.prefix_append _ _), hclosed⟩

namespace Stream

variable {s s' : Stream} {m : Move} {es : List Entry}

/-! ## Overdue files -/

/-- A file is open, or being opened, that is dated before the last stop. -/
structure Overdue (s : Stream) : Prop where
  shaped : s.Shaped
  isOpen : s.fileStage ≠ .closed
  outdated : ∀ generation, s.generation? = some generation → generation < s.stops

/-- An overdue file stays so until it is closed. -/
theorem Step.overdue (h : Step s m s' es) (ho : s.Overdue) (hopen : s'.fileStage ≠ .closed) :
    s'.Overdue where
  shaped := h.shaped ho.shaped
  isOpen := hopen
  outdated generation hg := by
    have hlt := ho.outdated generation (h.generation_kept ho.shaped ho.isOpen hg)
    rw [h.stops]
    omega

/-- The closing of an overdue file goes on. -/
theorem Step.goes_on_closing_overdue (h : Step s m s' es) (ho : s.Overdue) {en : Bool} {task : Task}
    {next : Resumption} (hact : s.activity = .awake en task)
    (hnext : task.resumption? = some next) :
    ∃ task', s'.activity = .awake en task' ∧ task'.resumption? = some next := by
  rcases h.goes_on_closing hact hnext with hgoes | ⟨rfl, -⟩
  · exact hgoes
  · exact absurd (fileStage_of_task hact rfl) ho.isOpen

/-- An overdue file is found to be interrupted. -/
theorem Overdue.isInterrupted (ho : s.Overdue) (hstage : s.fileStage = s.restStage)
    (hgen : s.generation? = s.file.map (·.generation)) : s.isInterrupted = true := by
  cases hfile : s.file with
  | none =>
    refine absurd ?_ ho.isOpen
    rw [hstage, restStage, hfile]
    rfl
  | some f =>
    have hlt := ho.outdated f.generation (by rw [hgen, hfile]; rfl)
    have hne : f.generation ≠ s.stops := by omega
    simp [Stream.isInterrupted, hfile, hne]

/-- After a stop, whatever file is open is overdue. -/
theorem overdue_of_stop (hm : m = .stop ∨ m = .shutDown) (hs : s.Shaped) (hd : s.Dated)
    (hopen : (s.move m).1.fileStage ≠ .closed) : (s.move m).1.Overdue where
  shaped := (s.step_move m).shaped hs
  isOpen := hopen
  outdated generation hg := by
    rcases hm with rfl | rfl
    · exact Nat.lt_succ_of_le (hd.generation hg).1
    · exact Nat.lt_succ_of_le (hd.generation hg).1

/-! ## Until the file is closed -/

/-- The wake that was under way at a stop takes no other frame for the file than those in
`hand`. -/
def Spares (s : Stream) (hand : List Item) : Prop :=
  ∀ task, s.activity = .awake true task → task.resumption? = none → ∀ x ∈ task.inHand, x ∈ hand

/-- A wake has the file still to close: before anything else, if it began enabled. -/
def HasToClose (s : Stream) (en : Bool) : Prop :=
  ∃ task, s.activity = .awake en task ∧ (en = true → task.resumption? = some .take)

/-- What the worker does until the file is closed, in the wake under way at the stop and in the one
after it. The entries are those since the stop. -/
def EndsSoon (s : Stream) (hand : List Item) (es : List Entry) : Prop :=
  match lastWoken es with
  | none => s.Spares hand
  | some en => s.HasToClose en

theorem Step.spares (h : Step s m s' es) (ho : s.Overdue) {hand : List Item}
    (hquiet : es.filterMap Entry.woken? = []) (hsp : s.Spares hand) : s'.Spares hand := by
  intro task' hact' hnext' x hx
  obtain ⟨task, hact⟩ : ∃ task, s.activity = .awake true task := by
    rcases h.same_wake hact' with hgoes | ⟨-, -, rfl, -⟩
    · exact hgoes
    · cases hquiet
  cases hnext : task.resumption? with
  | some next =>
    obtain ⟨task₁, h₁, hnext₁⟩ := h.goes_on_closing_overdue ho hact hnext
    cases hact'.symm.trans h₁
    cases hnext'.symm.trans hnext₁
  | none =>
    have hold := hsp task hact hnext
    rcases h.hand with hkeeps | ⟨-, -, -, hlost⟩
    · rw [KeepsCount, inHand_awake hact, inHand_awake hact'] at hkeeps
      have hx : x ∈ task.inHand ++ takenItems es := hkeeps ▸ List.mem_append_right _ hx
      rcases List.mem_append.mp hx with hx | hx
      · exact hold x hx
      · -- a frame was taken just now, and the file is closed before it is handled
        obtain ⟨en, pending, s₁, -, -, htaking, htake, hs'⟩ := h.of_taken hx
        cases hact.symm.trans htaking
        have hint := ho.isInterrupted (fileStage_awake hact) (generation?_awake hact)
        obtain ⟨l, l', -, rfl⟩ := takeFrame?_eq_some htake
        rw [isInterrupted_setLane, hint] at hs'
        rcases hs' with ⟨hi, -⟩ | ⟨-, -, rfl⟩
        · cases hi
        · cases hact'
          cases hnext'
    · rw [inHand_awake hact'] at hlost
      rw [hlost] at hx
      cases hx

theorem Step.hasToClose (h : Step s m s' es) (ho : s.Overdue) {en : Bool} (hc : s.HasToClose en) :
    s'.HasToClose en := by
  obtain ⟨task, hact, hnext⟩ := hc
  cases en with
  | true =>
    obtain ⟨task', hact', hnext'⟩ := h.goes_on_closing_overdue ho hact (hnext rfl)
    exact ⟨task', hact', fun _ => hnext'⟩
  | false =>
    rcases h.goes_on hact with ⟨task', hact'⟩ | ⟨hen, -⟩ | ⟨rfl, -⟩
    · exact ⟨task', hact', nofun⟩
    · cases hen
    · -- the lanes are only emptied without a file
      exact absurd (fileStage_bare hact rfl (ho.shaped.file_eq_none hact rfl)) ho.isOpen

/-- A wake that begins with an overdue file has it to close. -/
theorem Step.hasToClose_of_woken (h : Step s m s' es) (ho : s.Overdue) {en : Bool}
    (hwoken : .woken en ∈ es) : s'.HasToClose en := by
  obtain ⟨rfl, hasleep, rfl⟩ := h.makes _ hwoken
  have hrest : s.activity.task? = none := by
    rw [hasleep]
    rfl
  have hint := ho.isInterrupted (fileStage_resting hrest) (generation?_resting hrest)
  rcases h.of_resting hrest with ⟨-, -, -, hact'⟩ | ⟨hsame, -⟩
  · refine ⟨_, hact', fun hen => ?_⟩
    rw [hen, hint]
    rfl
  · cases h with
    | idle => cases hwoken
    | accept hm => rcases hm with hm | hm <;> cases hm
    | wake | wakeInterrupted => cases hasleep.symm.trans hsame.symm

theorem Step.endsSoon (h : Step s m s' es) (ho : s.Overdue) {hand : List Item} {since : List Entry}
    (hsoon : s.EndsSoon hand since) : s'.EndsSoon hand (since ++ es) := by
  unfold EndsSoon at hsoon ⊢
  cases hlast : lastWoken es with
  | some en =>
    rw [lastWoken_append_some since hlast]
    obtain ⟨e, he, hen⟩ := List.mem_filterMap.mp (List.mem_of_getLast? hlast)
    have hwoken : e = .woken en := by
      cases e <;> first | (cases hen; rfl) | cases hen
    exact h.hasToClose_of_woken ho (hwoken ▸ he)
  | none =>
    have hquiet := lastWoken_eq_none hlast
    rw [lastWoken_append_quiet hquiet]
    cases hsince : lastWoken since with
    | none =>
      rw [hsince] at hsoon
      exact h.spares ho hquiet hsoon
    | some en =>
      rw [hsince] at hsoon
      exact h.hasToClose ho hsoon

/-- **Until it is closed, the file is overdue, and its end is near.** -/
theorem closes_or_endsSoon (ho : s.fileStage ≠ .closed → s.Overdue) (ms : List Move) :
    s.fileStage.Closes (s.run ms).2 ∨
      (s.run ms).1.Overdue ∧ (s.run ms).1.EndsSoon s.inHand (s.run ms).2 := by
  have hfirst : s.fileStage.Closes [] ∨ (s.fileStage.follow? [] = some s.fileStage ∧
      s.Overdue ∧ s.EndsSoon s.inHand []) := by
    by_cases hclosed : s.fileStage = .closed
    · exact .inl ⟨[], List.prefix_rfl, by rw [hclosed]; rfl⟩
    · refine .inr ⟨rfl, ho hclosed, fun task hact _ x hx => ?_⟩
      rwa [inHand_awake hact]
  refine (run_induction (P := fun since s' => s.fileStage.Closes since ∨
    (s.fileStage.follow? since = some s'.fileStage ∧ s'.Overdue ∧ s'.EndsSoon s.inHand since))
    ?_ hfirst ms).imp_right And.right
  rintro since s₁ m s₂ es hmove (hclosed | ⟨hfollow, ho₁, hsoon⟩)
  · exact .inl (hclosed.append es)
  · have hfollow₂ : s.fileStage.follow? (since ++ es) = some s₂.fileStage := by
      rw [FileStage.follow?_append, hfollow]
      exact hmove.follows ho₁.shaped
    by_cases hclosed : s₂.fileStage = .closed
    · exact .inl ⟨since ++ es, List.prefix_rfl, hclosed ▸ hfollow₂⟩
    · exact .inr ⟨hfollow₂, hmove.overdue ho₁ hclosed, hmove.endsSoon ho₁ hsoon⟩

/-- When the next wake is over the file is closed. -/
theorem closes_of_resting (ho : s.fileStage ≠ .closed → s.Overdue) {ms : List Move}
    (hwake : lastWoken (s.run ms).2 ≠ none) (hrest : (s.run ms).1.activity.task? = none) :
    s.fileStage.Closes (s.run ms).2 := by
  rcases closes_or_endsSoon ho ms with hcloses | ⟨-, hsoon⟩
  · exact hcloses
  · -- the wake would still be under way
    obtain ⟨en, hlast⟩ := Option.ne_none_iff_exists'.mp hwake
    rw [EndsSoon, hlast] at hsoon
    obtain ⟨task, hact, -⟩ := hsoon
    rw [hact] at hrest
    cases hrest

/-- If the next wake begins enabled, the file is closed before another frame is taken. -/
theorem closes_of_taken (ho : s.fileStage ≠ .closed → s.Overdue) {ms : List Move} {kind : LaneKind}
    {t : Ticket} {pre post : List Entry} (hes : (s.run ms).2 = pre ++ .taken kind t :: post)
    (hkind : kind ≠ .thumbnail) (hlast : lastWoken pre = some true) : s.fileStage.Closes pre := by
  obtain ⟨ms₁, m, ms₂, rfl, rfl, hitem, -⟩ := exists_taking (x := ⟨kind, t⟩) hes hkind
  rcases closes_or_endsSoon ho ms₁ with hcloses | ⟨-, hsoon⟩
  · exact hcloses
  · obtain ⟨en, pending, s₁, -, -, hact, -⟩ := ((s.run ms₁).1.step_move m).of_taken hitem
    rw [EndsSoon, hlast] at hsoon
    obtain ⟨task, hact', hnext⟩ := hsoon
    cases hact.symm.trans hact'
    cases hnext rfl

/-- If a wake that began enabled was under way at the stop, it hands over for the file at most what
was in hand. -/
theorem closes_or_inHand (ho : s.fileStage ≠ .closed → s.Overdue) {journal : List Entry}
    (hwoken : s.WokenAs journal) {task : Task} (hact : s.activity = .awake true task)
    {ms : List Move} {e : Entry} {x : Item} {pre post : List Entry}
    (hes : (s.run ms).2 = pre ++ e :: post) (hx : e.hands? = some x)
    (hlast : lastWoken pre = none) : s.fileStage.Closes pre ∨ x ∈ s.inHand := by
  obtain ⟨ms₁, m, ms₂, rfl, rfl, hlone, -⟩ := exists_handing hes hx
  rcases closes_or_endsSoon ho ms₁ with hcloses | ⟨-, hsoon⟩
  · exact .inl hcloses
  · obtain ⟨-, en, task', hact', hhand, hnext⟩ :=
      ((s.run ms₁).1.step_move m).of_hands (by rw [hlone]; simp) hx
    -- it is still the same wake
    have hsame := wokenAs_run hwoken ms₁ en task' hact'
    rw [lastWoken_append_quiet (lastWoken_eq_none hlast), hwoken true task hact] at hsame
    cases hsame
    rw [EndsSoon, hlast] at hsoon
    exact .inr (hsoon task' hact' hnext x (by rw [hhand]; simp))

/-! ## Stops -/

/-- Only a wake that began enabled asks the writer to open a file. -/
theorem lastWoken_of_init (handle : StreamHandle) (config : StreamConfig) {ms : List Move}
    {e : Entry} {pre post : List Entry}
    (h : ((create handle config).run ms).2 = pre ++ e :: post) (hinit : e.isInit = true) :
    lastWoken pre = some true := by
  obtain ⟨ms₁, m, ms₂, es₁, es₂, rfl, hes, rfl, -⟩ := exists_move_of_entry h
  have hstep := ((create handle config).run ms₁).1.step_move m
  obtain ⟨request, en, ticket, generation, path, hact, -, hall⟩ :=
    hstep.of_init (by rw [hes]; simp) hinit
  have hsuited : (Task.naming ticket generation).suits en = true :=
    suited_run (suited_create handle config) ms₁ en _ hact
  obtain rfl : en = true := hsuited
  have hwoken := wokenAs_create handle config ms₁ true _ hact
  have hquiet : es₁.filterMap Entry.woken? = [] := by
    have hnone : (es₁ ++ e :: es₂).filterMap Entry.woken? = [] := by
      rw [← hes, hall, List.filterMap_append]
      cases request <;> cases e <;> first | rfl | cases hinit
    rw [List.filterMap_append] at hnone
    exact (List.append_eq_nil_iff.mp hnone).1
  rw [lastWoken_append_quiet hquiet]
  exact hwoken

/-- **A stop closes the file that it interrupts.** A file that the writer was asked to open before a
stop is closed when the next wake is over, whatever happens in between: if it was open, it is
finished and its end is told. If that wake begins enabled, the file is closed before another frame
is taken. A wake that began enabled and was under way at the stop hands over no frame for the file
but the one that was in hand. And no wake that began disabled opens a file. -/
theorem stop_closes (handle : StreamHandle) (config : StreamConfig) (before after : List Move)
    {m : Move} (hm : m = .stop ∨ m = .shutDown) :
    let journal := ((create handle config).run (before ++ [m])).2
    let s := ((create handle config).run (before ++ [m])).1
    let es := (s.run after).2
    let s' := (s.run after).1
    FileStage.closed.follow? journal = some s.fileStage ∧
    (lastWoken es ≠ none → s'.activity.task? = none →
      s.fileStage.Closes es ∧ (s.fileStage = .begun →
        ∃ path duration, [.deinit, .event (.fileEnd path duration)].Sublist es)) ∧
    (∀ pre kind t post, es = pre ++ .taken kind t :: post → kind ≠ .thumbnail →
      lastWoken pre = some true → s.fileStage.Closes pre) ∧
    (∀ task, s.activity = .awake true task → ∀ pre e post x, es = pre ++ e :: post →
      e.hands? = some x → lastWoken pre = none → s.fileStage.Closes pre ∨ x ∈ s.inHand) ∧
    (∀ pre e post, journal ++ es = pre ++ e :: post → e.isInit = true →
      lastWoken pre = some true) := by
  intro journal s es s'
  have hs : s = (((create handle config).run before).1.move m).1 := by
    show ((create handle config).run (before ++ [m])).1 = _
    rw [run_append]
    rfl
  have hoverdue : s.fileStage ≠ .closed → s.Overdue := by
    rw [hs]
    exact overdue_of_stop hm (shaped_run (shaped_create handle config) before)
      (dated_run (dated_create handle config) before)
  have hwoken : s.WokenAs journal := wokenAs_create handle config (before ++ [m])
  refine ⟨follows_run (shaped_create handle config) (before ++ [m]), fun hwake hrest => ?_,
    fun pre kind t post hes hkind hlast => closes_of_taken hoverdue hes hkind hlast,
    fun task hact pre e post x hes hx hlast => closes_or_inHand hoverdue hwoken hact hes hx hlast,
    fun pre e post hes hinit => ?_⟩
  · obtain ⟨pre, hpre, hclosed⟩ := closes_of_resting hoverdue hwake hrest
    refine ⟨⟨pre, hpre, hclosed⟩, fun hbegun => ?_⟩
    rw [hbegun] at hclosed
    obtain ⟨path, duration, hsub⟩ := FileStage.exists_end hclosed
    exact ⟨path, duration, hsub.trans hpre.sublist⟩
  · have hall : ((create handle config).run ((before ++ [m]) ++ after)).2 = pre ++ e :: post := by
      rw [run_append]
      exact hes
    exact lastWoken_of_init handle config hall hinit

/-- A start, and a wake that closes the file and goes back to sleep. -/
def restartedWake : List Move :=
  [.start, .wake, .advance, .reply none, .reply none, .reply none, .advance]

/-- The file is finished and ends in the wake after a stop, although the stream was started again
before it. -/
theorem stop_closes_restarted :
    let s := ((create ⟨0, 0, 0⟩ secondLong).run (recordedOnce ++ [.stop])).1
    let es := (s.run restartedWake).2
    (.stop = Move.stop ∨ .stop = Move.shutDown) ∧ s.fileStage = .begun ∧
      lastWoken es = some true ∧ (s.run restartedWake).1.activity = .asleep ∧
      ∃ path duration, [.deinit, .event (.fileEnd path duration)].Sublist es := by
  intro s es
  have hcloses := stop_closes ⟨0, 0, 0⟩ secondLong recordedOnce restartedWake (.inl rfl)
  exact ⟨.inl rfl, by decide, by decide, by decide,
    (hcloses.2.1 (by decide) (by decide)).2 (by decide)⟩

end Stream

end CameraRecorder
