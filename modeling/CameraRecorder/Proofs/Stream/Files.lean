import CameraRecorder.Proofs.SplitPolicy
import CameraRecorder.Proofs.Stream.Draining
import CameraRecorder.Proofs.Stream.Filming
import CameraRecorder.Proofs.Stream.Stage

/-!
# One file from its beginning on

A file begins with the key frame that is in the worker's hand. As long as no other file begins, the
journal tells which frames the file holds, and the state agrees with it (`Stream.Holds`): when the
file began, how many frames it got, and whether its snapshot was asked for.
-/

namespace CameraRecorder

namespace Stream

variable {s s' : Stream} {m : Move} {es before : List Entry} {first : Ticket}

/-- A file only begins when the writer has opened it. -/
theorem Step.of_fileBegin (h : Step s m s' es) (hs : s.Shaped) {path : Path}
    (he : .event (.fileBegin path) ∈ es) :
    ∃ en ticket generation, s.activity = .awake en (.creating ticket generation path) ∧
      es = [.event (.fileBegin path)] ∧ s'.activity = .awake en (.beginning ticket) ∧
      s'.file = some (s.newFile ticket generation path) := by
  cases h.films hs with
  | apart hes => cases hes _ he
  | creates h hes h' _ hfile =>
    rw [hes, List.mem_singleton] at he
    cases he
    exact ⟨_, _, _, h, hes, h', hfile⟩
  | hands _ hes =>
    rw [hes] at he
    simp at he
  | @returns _ _ file error _ _ _ hes =>
    rw [hes] at he
    cases error <;> cases hasks : s.asksAfter file <;> simp [hasks] at he
  | closes _ hes =>
    rw [hes] at he
    cases he

/-- How many video frames the calls that have returned were for. -/
def returned (s : Stream) (es : List Entry) : Nat :=
  (videos es).length - s.writing?.toList.length

/-- What a stream holds of a file that began with a frame, and what the entries since then tell. -/
structure Holds (first : Ticket) (es : List Entry) (s : Stream) : Prop where
  /-- The first frame is handed over first, and no frame after it ends the file. -/
  opens : videos es = [] ∧ (∃ en, s.activity = .awake en (.beginning first)) ∨
    (∃ rest, videos es = first :: rest ∧ ∀ t ∈ rest, t.frame.isKey = true →
      s.policy.splitDue (t.frame.pts.since first.frame.pts) = false) ∧
      ∀ en ticket, s.activity ≠ .awake en (.beginning ticket)
  file : ∀ f, s.file = some f → f.startedAt = first.frame.pts ∧
    f.frameCount + s.writing?.toList.length = (videos es).length ∧
    f.thumbnailAsked = decide (s.policy.requestAt ≤ f.frameCount)
  requests : es.countP Entry.isRequest
    = (decide (s.policy.requestAt ≤ s.returned es)).toNat

theorem holds_of_created {en : Bool} {generation : Nat} {path : Path}
    (hact : s.activity = .awake en (.beginning first))
    (hfile : s.file = some (s'.newFile first generation path)) : Holds first [] s := by
  have hundue : decide (s.policy.requestAt ≤ 0) = false :=
    decide_eq_false (Nat.not_le.mpr (Nat.le_max_left ..))
  refine ⟨.inl ⟨rfl, en, hact⟩, fun f hf => ?_, ?_⟩
  · cases hfile.symm.trans hf
    exact ⟨rfl, by rw [writing?_awake hact]; rfl, hundue.symm⟩
  · rw [show s.returned [] = 0 from Nat.zero_sub _, hundue]
    rfl

theorem countP_isRequest_eq_zero (h : ∀ e ∈ es, e.isFilming = false) :
    es.countP Entry.isRequest = 0 := by
  refine List.countP_eq_zero.mpr fun e he => ?_
  have hapart := h e he
  cases e with
  | thumbnail => cases hapart
  | _ => exact nofun

/-- A file that stays as it is, its snapshot apart. -/
theorem exists_of_bare {f' : OpenFile} (hfile' : s'.file = some f')
    (hfile : s'.file.map OpenFile.bare = s.file.map OpenFile.bare) :
    ∃ f kept, s.file = some f ∧ f' = { f with thumbnail := kept } := by
  rw [hfile'] at hfile
  obtain ⟨f, hf, hbare⟩ := Option.map_eq_some_iff.mp hfile.symm
  refine ⟨f, f'.thumbnail, hf, ?_⟩
  have hkept := congrArg (fun g => { g with thumbnail := f'.thumbnail }) hbare.symm
  exact hkept

/-- A worker only turns to telling that a file began when the writer has opened it. -/
theorem Step.not_beginning (h : Step s m s' es) (hs : s.Shaped)
    (hfile : s'.file.map OpenFile.bare = s.file.map OpenFile.bare)
    (hnone : ∀ en ticket, s.activity ≠ .awake en (.beginning ticket)) :
    ∀ en ticket, s'.activity ≠ .awake en (.beginning ticket) := by
  intro en ticket hact'
  generalize htask : Task.beginning ticket = task' at hact'
  rcases h.comes_from hact' with hsame | ⟨task, hact, hleads⟩ | ⟨-, -, -, -, rfl⟩
  · exact hnone en ticket (htask ▸ hsame)
  · cases hleads with
    | create =>
      cases htask
      obtain ⟨f', hf'⟩ := (h.shaped hs).exists_file hact' rfl
      obtain ⟨f, -, hf, -⟩ := exists_of_bare hf' hfile
      cases (hs.file_eq_none hact rfl).symm.trans hf
    | @resume next => cases next <;> cases htask
    | _ => cases htask
  · split at htask <;> cases htask

/-- A file that begins is begun with its first frame. -/
theorem Step.stays_beginning (h : Step s m s' es) (hwriting : s'.writing? = s.writing?) {en : Bool}
    {ticket : Ticket} (hact : s.activity = .awake en (.beginning ticket)) :
    s'.activity = .awake en (.beginning ticket) := by
  rcases h.leads hact with hsame | ⟨task', hact', hleads⟩ | ⟨-, htask, -⟩ | ⟨htask, -⟩
  · exact hsame
  · cases hleads
    rw [writing?_awake hact', writing?_awake hact] at hwriting
    cases hwriting
  · cases htask
  · cases htask

/-- A move that has nothing to do with the file leaves all that is known of it. -/
theorem Holds.apart (hf : Holds first before s) (h : Step s m s' es) (hs : s.Shaped)
    (hes : ∀ e ∈ es, e.isFilming = false) (hwriting : s'.writing? = s.writing?)
    (hfile : s'.file.map OpenFile.bare = s.file.map OpenFile.bare) :
    Holds first (before ++ es) s' where
  opens := by
    rw [videos_append, videos_eq_nil hes, List.append_nil, h.same.policy]
    rcases hf.opens with ⟨hnone, en, hact⟩ | ⟨hrest, hnone⟩
    · exact .inl ⟨hnone, en, h.stays_beginning hwriting hact⟩
    · exact .inr ⟨hrest, h.not_beginning hs hfile hnone⟩
  file f' hf' := by
    obtain ⟨f, kept, hfile, rfl⟩ := exists_of_bare hf' hfile
    rw [videos_append, videos_eq_nil hes, List.append_nil, h.same.policy, hwriting]
    exact hf.file f hfile
  requests := by
    rw [returned, videos_append, videos_eq_nil hes, List.append_nil, h.same.policy, hwriting,
      List.countP_append, countP_isRequest_eq_zero hes]
    exact hf.requests

/-- A frame that is handed over is the first one, or it does not end the file. -/
theorem Holds.hands (hf : Holds first before s) {en : Bool} {ticket : Ticket}
    (h : s.activity = .awake en (.beginning ticket) ∨
      s.activity = .awake en (.handling (.video ticket)) ∧
        ∃ file, s.file = some file ∧ s.splits file ticket.frame = false)
    (hact' : s'.activity = .awake en (.writingVideo ticket)) (hfile : s'.file = s.file)
    (hpolicy : s'.policy = s.policy) : Holds first (before ++ [.video ticket]) s' := by
  have hwriting : s.writing? = none := by
    rcases h with hact | ⟨hact, -⟩ <;> exact writing?_awake hact
  have hwriting' : s'.writing? = some ticket := writing?_awake hact'
  refine ⟨.inr ⟨?_, fun en' ticket' h' => by cases hact'.symm.trans h'⟩, fun f hf' => ?_, ?_⟩
  · rw [videos_append, hpolicy]
    rcases hf.opens with ⟨hnone, en₀, hact₀⟩ | ⟨⟨rest, hrest, hlater⟩, hno⟩
    · rcases h with hact | ⟨hact, -⟩
      · cases hact.symm.trans hact₀
        exact ⟨[], by rw [hnone]; rfl, nofun⟩
      · cases hact.symm.trans hact₀
    · rcases h with hact | ⟨-, file, hopen, hsplit⟩
      · exact absurd hact (hno _ _)
      · refine ⟨rest ++ [ticket], by rw [hrest]; rfl, fun t ht hkey => ?_⟩
        rcases List.mem_append.mp ht with ht | ht
        · exact hlater t ht hkey
        · rw [List.mem_singleton.mp ht] at hkey ⊢
          rw [splits, hkey, Bool.true_and, (hf.file file hopen).1] at hsplit
          exact hsplit
  · obtain ⟨hstart, hcount, hasked⟩ := hf.file f (hfile.symm.trans hf')
    rw [hwriting] at hcount
    rw [videos_append, hwriting', hpolicy]
    refine ⟨hstart, ?_, hasked⟩
    rw [List.length_append, ← hcount]
    rfl
  · have hrequests := hf.requests
    rw [returned, hwriting] at hrequests
    rw [List.countP_append, hrequests, returned, hwriting', videos_append, List.length_append,
      hpolicy]
    rfl

/-- The snapshot is asked for when the count of frames comes to the one at which that is due. -/
theorem Holds.asksAfter (hf : Holds first before s) {file : OpenFile} (hopen : s.file = some file) :
    s.asksAfter file
      = (!decide (s.policy.requestAt ≤ file.frameCount) &&
        decide (s.policy.requestAt ≤ file.frameCount + 1)) := by
  rw [Stream.asksAfter, (hf.file file hopen).2.2, SplitPolicy.thumbnailDue]
  congr 1
  exact decide_eq_decide.mpr (by unfold SplitPolicy.requestAt; omega)

/-- When the call for a frame returns, the frame counts, and the snapshot is asked for if it is
due. -/
theorem Holds.returns (hf : Holds first before s) {en : Bool} {ticket : Ticket} {file : OpenFile}
    {error : Option WriterError} (hact : s.activity = .awake en (.writingVideo ticket))
    (hopen : s.file = some file) (hwriting : s'.writing? = none)
    (hidle : ∀ en ticket, s'.activity ≠ .awake en (.beginning ticket))
    (hfile : s'.file = some (s.filmed file ticket)) (hpolicy : s'.policy = s.policy) :
    Holds first (before ++ ((error.map Entry.failed).toList ++
      if s.asksAfter file then [.thumbnail s.handle.channelId] else [])) s' := by
  obtain ⟨hstart, hcount, hasked⟩ := hf.file file hopen
  rw [writing?_awake hact] at hcount
  have hcount : file.frameCount + 1 = (videos before).length := hcount
  have hnone : videos ((error.map Entry.failed).toList ++
      if s.asksAfter file then [.thumbnail s.handle.channelId] else []) = [] := by
    cases error <;> cases s.asksAfter file <;> rfl
  have hone : ((error.map Entry.failed).toList ++
      if s.asksAfter file then [Entry.thumbnail s.handle.channelId] else []).countP Entry.isRequest
        = (s.asksAfter file).toNat := by
    cases error <;> cases s.asksAfter file <;> rfl
  have hasks := hf.asksAfter hopen
  refine ⟨.inr ⟨?_, hidle⟩, fun f hf' => ?_, ?_⟩
  · rw [videos_append, hnone, List.append_nil, hpolicy]
    rcases hf.opens with ⟨-, en₀, hact₀⟩ | ⟨hrest, -⟩
    · cases hact.symm.trans hact₀
    · exact hrest
  · cases hfile.symm.trans hf'
    rw [videos_append, hnone, List.append_nil, hwriting, hpolicy]
    refine ⟨hstart, hcount, ?_⟩
    show (file.thumbnailAsked || s.asksAfter file) = decide (_ ≤ file.frameCount + 1)
    rw [hasks, hasked]
    by_cases hbefore : s.policy.requestAt ≤ file.frameCount
    · simp [hbefore, Nat.le_succ_of_le hbefore]
    · simp [hbefore]
  · rw [List.countP_append, hone, hf.requests, returned, returned, videos_append, hnone,
      List.append_nil, hwriting, writing?_awake hact, hasks, hpolicy, ← hcount]
    show (decide (_ ≤ file.frameCount)).toNat + _ = (decide (_ ≤ file.frameCount + 1)).toNat
    by_cases hbefore : s.policy.requestAt ≤ file.frameCount
    · simp [hbefore, Nat.le_succ_of_le hbefore]
    · simp [hbefore]

/-- **What is known of a file stays known as long as no other file begins.** -/
theorem Step.holds (h : Step s m s' es) (hs : s.Shaped) (hf : Holds first before s)
    (hes : ∀ e ∈ es, e.isFileBegin = false) : Holds first (before ++ es) s' := by
  cases h.films hs with
  | apart hes hwriting _ hfile => exact hf.apart h hs hes hwriting hfile
  | creates _ hmade =>
    rw [hmade] at hes
    cases hes _ (List.mem_singleton.mpr rfl)
  | hands hact hmade hact' _ hfile =>
    subst hmade
    exact hf.hands hact hact' hfile h.same.policy
  | returns hact _ hopen hmade hwriting _ hfile =>
    subst hmade
    refine hf.returns hact hopen hwriting (fun en₁ ticket₁ hact₁ => ?_) hfile h.same.policy
    rcases h.leads hact with hsame | ⟨task', hact', hleads⟩ | ⟨-, htask, -⟩ | ⟨htask, -⟩
    · cases hsame.symm.trans hact₁
    · cases hleads <;> cases hact'.symm.trans hact₁
    · cases htask
    · cases htask
  | @closes en next hact hmade hact' _ hfile =>
    subst hmade
    rw [List.append_nil]
    have hwriting : s.writing? = none := writing?_awake hact
    have hwriting' : s'.writing? = none := by
      rw [writing?_awake hact']
      cases next <;> rfl
    refine ⟨.inr ⟨?_, ?_⟩, ?_, ?_⟩
    · rw [h.same.policy]
      rcases hf.opens with ⟨-, en₀, hact₀⟩ | ⟨hrest, -⟩
      · cases hact.symm.trans hact₀
      · exact hrest
    · intro en₀ ticket hact₀
      cases next <;> cases hact'.symm.trans hact₀
    · intro f hf'
      cases hfile.symm.trans hf'
    · rw [returned, hwriting', h.same.policy]
      have hrequests := hf.requests
      rwa [returned, hwriting] at hrequests

theorem holds_run (hs : s.Shaped) (hf : Holds first before s) {ms : List Move}
    (hes : ∀ e ∈ (s.run ms).2, e.isFileBegin = false) :
    Holds first (before ++ (s.run ms).2) (s.run ms).1 := by
  induction ms generalizing s before with
  | nil => rwa [run_nil, List.append_nil]
  | cons m ms ih =>
    have hstep := s.step_move m
    have hfirst := hstep.holds hs hf fun e he => hes e (List.mem_append_left _ he)
    rw [run_cons, ← List.append_assoc]
    exact ih (hstep.shaped hs) hfirst fun e he => hes e (List.mem_append_right _ he)

/-- A file begins with the key frame that is in hand. -/
theorem exists_first (hs : s.Shaped) {path : Path}
    (he : .event (.fileBegin path) ∈ (s.move m).2) :
    ∃ first, s.inHand = [⟨.video, first⟩] ∧ (s.move m).1.inHand = [⟨.video, first⟩] ∧
      first.frame.isKey = true ∧ (s.move m).2 = [.event (.fileBegin path)] ∧
      Holds first [] (s.move m).1 := by
  have hstep := s.step_move m
  obtain ⟨en, first, generation, hact, hes, hact', hfile⟩ := hstep.of_fileBegin hs he
  refine ⟨first, inHand_awake hact, inHand_awake hact', ?_, hes, holds_of_created hact' hfile⟩
  exact hs.key first (by rw [hact]; rfl)

/-! ## What is taken for a file -/

/-- The video frame that an item is. -/
def Item.video? : Item → Option Ticket
  | ⟨.video, ticket⟩ => some ticket
  | _ => none

theorem videos_eq (es : List Entry) : videos es = (handedItems es).filterMap Item.video? := by
  rw [handedItems, List.filterMap_filterMap, videos]
  refine List.filterMap_congr fun e _ => ?_
  cases e <;> rfl

/-- The video frames that were taken, in order. -/
def takenVideos (es : List Entry) : List Ticket := (takenItems es).filterMap Item.video?

/-- Without a file there is none until one begins. -/
theorem Step.file_eq_none (h : Step s m s' es) (hs : s.Shaped)
    (hes : ∀ e ∈ es, e.isFileBegin = false) (hnone : s.file = none) : s'.file = none := by
  cases h.films hs with
  | apart _ _ _ hfile =>
    rw [hnone] at hfile
    exact Option.map_eq_none_iff.mp hfile
  | creates _ hmade =>
    rw [hmade] at hes
    cases hes _ (List.mem_singleton.mpr rfl)
  | hands _ _ _ _ hfile => exact hfile.trans hnone
  | returns _ _ hopen => cases hnone.symm.trans hopen
  | closes _ _ _ _ hfile => exact hfile

theorem file_eq_none_run (hs : s.Shaped) {ms : List Move}
    (hes : ∀ e ∈ (s.run ms).2, e.isFileBegin = false) (hnone : s.file = none) :
    (s.run ms).1.file = none := by
  induction ms generalizing s with
  | nil => exact hnone
  | cons m ms ih =>
    have hstep := s.step_move m
    refine ih (hstep.shaped hs) (fun e he => hes e (List.mem_append_right _ he)) ?_
    exact hstep.file_eq_none hs (fun e he => hes e (List.mem_append_left _ he)) hnone

/-- **While a file is open nothing is lost.** What is handed over for it and what is in hand are
what was in hand and what is taken. -/
theorem keepsCount_run (hs : s.Shaped) {ms : List Move}
    (hes : ∀ e ∈ (s.run ms).2, e.isFileBegin = false) (hopen : (s.run ms).1.file.isSome = true) :
    s.KeepsCount (s.run ms).2 (s.run ms).1 := by
  have hsome : s.file.isSome = true := by
    rw [Option.isSome_iff_ne_none] at hopen ⊢
    exact fun hnone => hopen (file_eq_none_run hs hes hnone)
  induction ms generalizing s with
  | nil => exact .refl s
  | cons m ms ih =>
    have hstep := s.step_move m
    have hlater : ∀ e ∈ ((s.move m).1.run ms).2, e.isFileBegin = false := fun e he =>
      hes e (List.mem_append_right _ he)
    have hsome' : (s.move m).1.file.isSome = true := by
      rw [Option.isSome_iff_ne_none] at hopen ⊢
      exact fun hnone => hopen (file_eq_none_run (hstep.shaped hs) hlater hnone)
    have hrest := ih (hstep.shaped hs) hlater hopen hsome'
    rcases hstep.hand with hkeeps | ⟨hloses, -⟩
    · exact hkeeps.trans hrest
    · cases (hs.loses_eq_false hsome m).symm.trans hloses

end Stream

end CameraRecorder
