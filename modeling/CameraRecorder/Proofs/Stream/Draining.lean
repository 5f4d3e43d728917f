import CameraRecorder.Proofs.Stream.Order
import CameraRecorder.Proofs.Stream.Wakes
import Mathlib.Data.List.TakeWhile

/-!
# What a disabled stream still writes

A wake on a disabled stream takes what was queued before the stop, writes it to the open file, and
closes the file when the lanes are empty. It opens no file. So a key frame that ends the file ends
the writing: that frame and all that come after it are taken and lost. What is handed over is known
from what is taken (`Stream.Drains`), and everything queued is taken unless it has to make room
(`Stream.Empties`).
-/

namespace CameraRecorder

/-- Whether a frame ends a file that began at a time. -/
def Item.ends (policy : SplitPolicy) (start : Timestamp) : Item → Bool
  | ⟨.video, ticket⟩ => ticket.frame.isKey && policy.splitDue (ticket.frame.pts.since start)
  | _ => false

/-- Nothing but the end of a wake on a disabled stream follows a task. -/
def Task.IsLast (task : Task) : Prop := task = .retiring ∨ task.resumption? = some .retire

/-- A frame left its lane to be handled, or to make room for another. -/
def Leaves (kind : LaneKind) (t : Ticket) (es : List Entry) : Prop :=
  .taken kind t ∈ es ∨ kind = .video ∧ .evicted t ∈ es

theorem Leaves.append {kind : LaneKind} {t : Ticket} {es : List Entry} (h : Leaves kind t es)
    (es' : List Entry) : Leaves kind t (es ++ es') :=
  h.imp (List.mem_append_left _) (And.imp_right (List.mem_append_left _))

theorem Leaves.append_left {kind : LaneKind} {t : Ticket} {es' : List Entry}
    (h : Leaves kind t es') (es : List Entry) : Leaves kind t (es ++ es') :=
  h.imp (List.mem_append_right _) (And.imp_right (List.mem_append_right _))

/-! ## Frames that wait -/

namespace Buffers

variable {b b' : Buffers} {e : Entry} {es : List Entry} {kind : LaneKind} {t : Ticket}

/-- A frame waits until it leaves its lane or everything is thrown out. -/
theorem Step.waits (h : Step b e b') (ht : t ∈ b.queue kind)
    (hkept : ∀ ts, e ≠ .discarded kind ts) : t ∈ b'.queue kind ∨ Leaves kind t [e] := by
  cases h with
  | @accepted k frame =>
    refine .inl ?_
    rw [queue_count, queue_put]
    by_cases hk : kind = k
    · subst hk
      rw [if_pos rfl]
      exact (List.mem_orderedInsert _).mpr (.inr ht)
    · rwa [if_neg hk]
  | @evicted u pre post hq _ _ =>
    by_cases hk : kind = .video
    · subst hk
      rw [hq] at ht
      rcases List.mem_append.mp ht with ht | ht
      · exact .inl (by simp [ht])
      · rcases List.mem_cons.mp ht with rfl | ht
        · exact .inr (.inr ⟨rfl, .head _⟩)
        · exact .inl (by simp [ht])
    · exact .inl (by rwa [queue_put, if_neg hk])
  | @discarded k =>
    by_cases hk : kind = k
    · subst hk
      exact absurd rfl (hkept _)
    · exact .inl (by rwa [queue_put, if_neg hk])
  | @taken k u rest hq _ =>
    by_cases hk : kind = k
    · subst hk
      rw [hq] at ht
      rcases List.mem_cons.mp ht with rfl | ht
      · exact .inr (.inl (.head _))
      · exact .inl (by rwa [queue_put, if_pos rfl])
    · exact .inl (by rwa [queue_put, if_neg hk])
  | other _ => exact .inl ht

theorem Steps.waits (h : Steps b es b') (ht : t ∈ b.queue kind)
    (hkept : ∀ ts, .discarded kind ts ∉ es) : t ∈ b'.queue kind ∨ Leaves kind t es := by
  induction h with
  | nil => exact .inl ht
  | @cons b e b₁ es b' hstep hsteps ih =>
    rcases hstep.waits ht fun ts he => hkept ts (by simp [he]) with hwaits | hleaves
    · exact (ih hwaits fun ts hts => hkept ts (.tail _ hts)).imp_right (·.append_left [e])
    · exact .inr (hleaves.append es)

end Buffers

namespace Stream

variable {s s' : Stream} {m : Move} {es : List Entry} {kind : LaneKind} {t : Ticket}

/-- No frame is found only if none waits for the writer. -/
theorem LanesSound.queue_eq_nil (hs : s.LanesSound) (h : s.takeFrame? = none)
    (hkind : kind ≠ .thumbnail) : s.queue kind = [] := by
  obtain ⟨hvideo, -⟩ := hs .video s.video rfl
  have hnovideo (hnone : s.takeVideo? = none) : s.video.peek? = none := by
    have hempty := hvideo.pop_eq_none_iff.mp (Option.map_eq_none_iff.mp hnone)
    rw [hvideo.peek_eq, hempty]
    rfl
  have hnoaudio (hnone : s.takeAudio? = none) : s.audio.bind Lane.peek? = none := by
    refine Option.bind_eq_none_iff.mpr fun l hl => ?_
    have haudio := (hs .audio l hl).1
    have hpop := Option.bind_eq_none_iff.mp (Option.map_eq_none_iff.mp hnone) l hl
    rw [haudio.peek_eq, haudio.pop_eq_none_iff.mp hpop]
    rfl
  have hpeeks : s.video.peek? = none ∧ s.audio.bind Lane.peek? = none := by
    unfold takeFrame? at h
    split at h
    · next hv ha =>
      split at h
      · cases ha.symm.trans (hnoaudio h)
      · cases hv.symm.trans (hnovideo h)
    · next hv _ => cases hv.symm.trans (hnovideo h)
    · next ha => cases ha.symm.trans (hnoaudio h)
    · next hv ha => exact ⟨hv, ha⟩
  cases hl : s.lane? kind with
  | none => simp [queue, hl]
  | some l =>
    have hpeek : l.peek? = none := by
      cases kind with
      | video =>
        cases hl
        exact hpeeks.1
      | audio => exact Option.bind_eq_none_iff.mp hpeeks.2 l hl
      | thumbnail => exact absurd rfl hkind
    rw [(hs kind l hl).1.peek_eq] at hpeek
    simpa [queue, hl] using hpeek

/-! ## The end of the wake -/

/-- What is left of the wake takes no frame. A worker that is not awake takes none either. -/
def AtLast (s : Stream) : Prop := ∀ task, s.activity.task? = some task → task.IsLast

theorem AtLast.of_task {en : Bool} {task : Task} (h : s.activity = .awake en task)
    (htask : task.IsLast) : s.AtLast := by
  intro task' h'
  rw [h] at h'
  cases h'
  exact htask

theorem AtLast.of_rest (h : s.activity.task? = none) : s.AtLast := by
  intro task h'
  cases h.symm.trans h'

theorem Step.atLast (h : Step s m s' es) (hm : m ≠ .wake) (hl : s.AtLast) : s'.AtLast := by
  cases hact : s.activity with
  | asleep | stopped | crashed =>
    rcases h.of_resting (by rw [hact]; rfl) with ⟨-, hwake, -⟩ | ⟨hsame, -⟩
    · exact absurd hwake hm
    · exact .of_rest (by rw [hsame, hact]; rfl)
  | awake en task =>
    rcases hl task (by rw [hact]; rfl) with rfl | hnext
    · rcases h.leads hact with hsame | ⟨task', -, hleads⟩ | ⟨-, htaking, -⟩ | ⟨-, rfl⟩
      · exact .of_task hsame (.inl rfl)
      · cases hleads
      · cases htaking
      · exact .of_rest s.task?_retire
    · rcases h.goes_on_closing hact hnext with ⟨task', hact', hnext'⟩ | ⟨-, hact'⟩
      · exact .of_task hact' (.inr hnext')
      · exact .of_task hact' (.inl rfl)

/-- A wake on a disabled stream only turns to its end when no frame is left. -/
theorem Step.of_atLast (h : Step s m s' es) {task : Task} (hact : s.activity = .awake false task)
    (hl : s'.AtLast) : task.IsLast ∨ s.takeFrame? = none := by
  rcases h.leads hact with hsame | ⟨task', hact', hleads⟩ | ⟨hen, -⟩ | ⟨rfl, -⟩
  · exact .inl (hl task (by rw [hsame]; rfl))
  · have hlast := hl task' (by rw [hact']; rfl)
    cases hleads with
    | closeLast _ hnone | turnIdle _ hnone => exact .inr hnone
    | appendTrailer | finishBare | finish | publish | tellEnd =>
      exact .inl (.inr (hlast.resolve_left nofun))
    | @resume next =>
      cases next with
      | retire => exact .inl (.inr rfl)
      | take | handle | reopen => rcases hlast with hlast | hlast <;> cases hlast
    | _ => rcases hlast with hlast | hlast <;> cases hlast
  · cases hen
  · exact .inl (.inl rfl)

/-- No frame is taken at the end of a wake. -/
theorem Step.takenItems_of_atLast (h : Step s m s' es) (hl : s.AtLast) : takenItems es = [] := by
  refine List.eq_nil_iff_forall_not_mem.mpr fun x hx => ?_
  obtain ⟨en, pending, s₁, -, -, hact, -⟩ := h.of_taken hx
  rcases hl .taking (by rw [hact]; rfl) with hlast | hlast <;> cases hlast

/-! ## Emptying the lanes -/

/-- A frame that was queued waits still, or it has left its lane; when the wake comes to its end, it
has left. -/
structure Empties (kind : LaneKind) (t : Ticket) (s : Stream) (es : List Entry) : Prop where
  waits : t ∈ s.queue kind ∨ Leaves kind t es
  leaves : s.AtLast → Leaves kind t es

theorem Step.empties (h : Step s m s' es) (hs : s.LanesSound)
    (hdisabled : ∀ en task, s.activity = .awake en task → en = false) (hkind : kind ≠ .thumbnail)
    {before : List Entry} (he : Empties kind t s before) : Empties kind t s' (before ++ es) := by
  by_cases hleft : Leaves kind t before
  · exact ⟨.inr (hleft.append es), fun _ => hleft.append es⟩
  have ht := he.waits.resolve_right hleft
  have hnotLast : ¬ s.AtLast := fun hl => hleft (he.leaves hl)
  have hkept (ts : List Ticket) : .discarded kind ts ∉ es := by
    intro hmem
    rcases h.makes _ hmem with hthumb | ⟨en, hact⟩
    · exact hkind hthumb
    · exact hnotLast (.of_task hact (.inl rfl))
  have hnext := (h.buffers hs).2.waits ht hkept
  refine ⟨hnext.imp_right (·.append_left before), fun hl' => ?_⟩
  -- the lanes were found empty just now, so the frame was not waiting
  exfalso
  cases hact : s.activity with
  | asleep | stopped | crashed => exact hnotLast (.of_rest (by rw [hact]; rfl))
  | awake en task =>
    cases hdisabled en task hact
    rcases h.of_atLast hact hl' with hlast | hnone
    · exact hnotLast (.of_task hact hlast)
    · rw [hs.queue_eq_nil hnone hkind] at ht
      cases ht

/-! ## Writing to the open file -/

/-- As long as a file is open no frame is lost. -/
theorem Shaped.loses_eq_false (hs : s.Shaped) (hfile : s.file.isSome = true) (m : Move) :
    s.loses m = false := by
  have hopen {en : Bool} {task : Task} (h : s.activity = .awake en task)
      (htask : task.hasFile? = some false) : False := by
    rw [hs.file_eq_none h htask] at hfile
    cases hfile
  unfold loses
  split
  · split
    · simpa using hfile
    · next h => exact (hopen h rfl).elim
    · rfl
  · split
    · next h => exact (hopen h rfl).elim
    · rfl
  · split
    · next h => exact (hopen h rfl).elim
    · rfl
  · rfl

/-- Without a file, a wake that began disabled hands nothing over. -/
theorem Step.handedItems_of_closed (h : Step s m s' es) (hs : s.Suited)
    (hdisabled : ∀ en task, s.activity = .awake en task → en = false) (hfile : s.file = none) :
    handedItems es = [] := by
  refine List.filterMap_eq_nil_iff.mpr fun e he => ?_
  have hmakes := h.makes e he
  cases e with
  | video ticket =>
    obtain ⟨-, en, hact | ⟨-, file, hsome, -⟩⟩ := hmakes
    · cases hdisabled _ _ hact
      cases hs _ _ hact
    · cases hfile.symm.trans hsome
  | audio ticket =>
    obtain ⟨-, en, -, hsome⟩ := hmakes
    rw [hfile] at hsome
    cases hsome
  | _ => rfl

/-- A wake that began disabled hands over no frame that ends the file. -/
theorem Step.ends_of_handed (h : Step s m s' es) (hs : s.Suited)
    (hdisabled : ∀ en task, s.activity = .awake en task → en = false) {file : OpenFile}
    (hfile : s.file = some file) :
    ∀ x ∈ handedItems es, x.ends s.policy file.startedAt = false := by
  intro x hx
  obtain ⟨e, he, hhands⟩ := List.mem_filterMap.mp hx
  have hmakes := h.makes e he
  unfold Entry.hands? at hhands
  split at hhands
  · cases hhands
    obtain ⟨-, en, hact | ⟨-, file', hfile', hsplit⟩⟩ := hmakes
    · cases hdisabled _ _ hact
      cases hs _ _ hact
    · cases hfile.symm.trans hfile'
      exact hsplit
  · cases hhands
    rfl
  · cases hhands

/-- What a wake that began disabled has written to a file since it began, as the entries since then
tell. -/
structure Drains (policy : SplitPolicy) (start : Timestamp) (s : Stream) (es : List Entry) :
    Prop where
  policy_eq : s.policy = policy
  disabled : ∀ en task, s.activity = .awake en task → en = false
  /-- The frame that ended the file is to be handled next. -/
  reopening : ∀ en task t, s.activity = .awake en task → task.resumption? = some (.reopen t) →
    Item.ends policy start ⟨.video, t⟩ = true
  /-- Everything taken is handed over. -/
  opened : ∀ file, s.file = some file → file.startedAt = start ∧
    handedItems es ++ s.inHand = takenItems es ∧
    ∀ x ∈ handedItems es, x.ends policy start = false
  /-- What was taken was handed over until the file ended. -/
  closed : s.file = none → handedItems es = (takenItems es).takeWhile (!·.ends policy start) ∧
    (s.AtLast ∨ ∃ x ∈ takenItems es, x.ends policy start = true)
  /-- The wake does not end without the file. -/
  closes : s.activity.task? = none → s.file = none

variable {policy : SplitPolicy} {start : Timestamp} {before : List Entry}

/-- What was taken after the end of the file does not count. -/
theorem takeWhile_append_of_ended {xs : List Item} (ys : List Item)
    (h : ∃ x ∈ xs, x.ends policy start = true) :
    (xs ++ ys).takeWhile (!·.ends policy start) = xs.takeWhile (!·.ends policy start) := by
  induction xs with
  | nil => simp at h
  | cons a xs ih =>
    cases ha : a.ends policy start with
    | true => simp [ha]
    | false =>
      obtain ⟨x, hx, hends⟩ := h
      have hx : x ∈ xs := by
        rcases List.mem_cons.mp hx with rfl | hx
        · cases ha.symm.trans hends
        · exact hx
      simp [ha, ih ⟨x, hx, hends⟩]

/-- While the file stays open, everything taken is handed over to it. -/
theorem Step.drains_open (h : Step s m s' es) (hs : s.Shaped) (hsuited : s.Suited)
    (hd : Drains policy start s before) {file : OpenFile} (hfile : s.file = some file) :
    handedItems (before ++ es) ++ s'.inHand = takenItems (before ++ es) ∧
      ∀ x ∈ handedItems (before ++ es), x.ends policy start = false := by
  obtain ⟨hstart, hall, hnone⟩ := hd.opened file hfile
  have hkeeps : s.KeepsCount es s' := by
    rcases h.hand with hkeeps | ⟨hloses, -⟩
    · exact hkeeps
    · cases (hs.loses_eq_false (Option.isSome_of_eq_some hfile) m).symm.trans hloses
  have hmore := h.ends_of_handed hsuited hd.disabled hfile
  rw [hd.policy_eq, hstart] at hmore
  rw [handedItems_append, takenItems_append]
  refine ⟨?_, fun x hx => (List.mem_append.mp hx).elim (hnone x) (hmore x)⟩
  rw [← hall, List.append_assoc, List.append_assoc]
  exact congrArg (handedItems before ++ ·) hkeeps

/-- Without a file nothing is handed over any more. -/
theorem Step.drains_closed (h : Step s m s' es) (hm : m ≠ .wake) (hsuited : s.Suited)
    (hd : Drains policy start s before) (hfile : s.file = none) :
    handedItems (before ++ es) = (takenItems (before ++ es)).takeWhile (!·.ends policy start) ∧
      (s'.AtLast ∨ ∃ x ∈ takenItems (before ++ es), x.ends policy start = true) := by
  obtain ⟨hhanded, hend⟩ := hd.closed hfile
  rw [handedItems_append, takenItems_append, h.handedItems_of_closed hsuited hd.disabled hfile,
    List.append_nil, hhanded]
  rcases hend with hlast | hended
  · rw [h.takenItems_of_atLast hlast, List.append_nil]
    exact ⟨rfl, .inl (h.atLast hm hlast)⟩
  · obtain ⟨x, hx, hends⟩ := hended
    exact ⟨(takeWhile_append_of_ended _ ⟨x, hx, hends⟩).symm,
      .inr ⟨x, List.mem_append_left _ hx, hends⟩⟩

/-- When the file is closed, the frame that ended it is in hand, or no frame is left. -/
theorem Drains.ended (hd : Drains policy start s before) (hs : s.Shaped) (hsuited : s.Suited)
    {en : Bool} {next : Resumption} (hact : s.activity = .awake en (.ending next))
    (hact' : s'.activity = .awake en next.task) :
    handedItems before = (takenItems before).takeWhile (!·.ends policy start) ∧
      (s'.AtLast ∨ ∃ x ∈ takenItems before, x.ends policy start = true) := by
  obtain ⟨file, hfile⟩ := hs.exists_file hact rfl
  obtain ⟨-, hall, hnone⟩ := hd.opened file hfile
  have hbefore : (handedItems before).takeWhile (!·.ends policy start) = handedItems before :=
    List.takeWhile_eq_self_iff.mpr fun x hx => by simp [hnone x hx]
  rw [inHand_awake hact] at hall
  cases hd.disabled _ _ hact
  cases next with
  | take | handle => cases hsuited _ _ hact
  | retire =>
    have hall : handedItems before = takenItems before := (List.append_nil _).symm.trans hall
    rw [← hall]
    exact ⟨hbefore.symm, .inl (.of_task hact' (.inl rfl))⟩
  | reopen t =>
    have hends := hd.reopening _ _ t hact rfl
    have hall : handedItems before ++ [⟨.video, t⟩] = takenItems before := hall
    rw [← hall]
    refine ⟨?_, .inr ⟨⟨.video, t⟩, by simp, hends⟩⟩
    rw [List.takeWhile_append_of_pos fun x hx => by simp [hnone x hx]]
    simp [hends]

/-- A wake that began disabled goes on as such. -/
theorem Step.disabled (h : Step s m s' es) (hm : m ≠ .wake)
    (hdisabled : ∀ en task, s.activity = .awake en task → en = false) :
    ∀ en task, s'.activity = .awake en task → en = false := by
  intro en task' hact'
  rcases h.same_wake hact' with ⟨task, hact⟩ | ⟨-, hwake, -⟩
  · exact hdisabled en task hact
  · exact absurd hwake hm

/-- The file is closed because of the frame that is to be handled next. -/
theorem Step.reopening (h : Step s m s' es) (hd : Drains policy start s before) :
    ∀ en task t, s'.activity = .awake en task → task.resumption? = some (.reopen t) →
      Item.ends policy start ⟨.video, t⟩ = true := by
  intro en task' t hact' hnext'
  rcases h.comes_from hact' with hsame | ⟨task, hact, hleads⟩ | ⟨-, -, -, -, rfl⟩
  · exact hd.reopening en task' t hsame hnext'
  · have hold := hd.reopening en task t hact
    cases hleads with
    | split hfile hsplit =>
      cases hnext'
      rw [← hd.policy_eq, ← (hd.opened _ hfile).1]
      exact hsplit
    | appendTrailer | finishBare | finish | publish | tellEnd => exact hold hnext'
    | @resume next => cases next <;> cases hnext'
    | _ => cases hnext'
  · cases hi : (s.isEnabled && s.isInterrupted) <;> rw [hi] at hnext' <;> cases hnext'

/-- **Every move of the wake writes what is taken until the file ends.** -/
theorem Step.drains (h : Step s m s' es) (hm : m ≠ .wake) (hs : s.Shaped) (hsuited : s.Suited)
    (hd : Drains policy start s before) : Drains policy start s' (before ++ es) where
  policy_eq := h.same.policy.trans hd.policy_eq
  disabled := h.disabled hm hd.disabled
  reopening := h.reopening hd
  opened file' hfile' := by
    rcases h.birth with hbirth | ⟨en, ticket, generation, path, hact, -⟩
      | ⟨en, next, -, -, hnone, -⟩
    · rw [hfile'] at hbirth
      obtain ⟨file, hfile, hsame⟩ := Option.map_eq_some_iff.mp hbirth.symm
      have hstart : file.startedAt = file'.startedAt := congrArg (·.2.2) hsame
      exact ⟨hstart ▸ (hd.opened file hfile).1, h.drains_open hs hsuited hd hfile⟩
    · cases hd.disabled _ _ hact
      cases hsuited _ _ hact
    · cases hnone.symm.trans hfile'
  closed hfile' := by
    rcases h.birth with hbirth | ⟨_, _, _, _, -, -, hgen⟩ | ⟨en, next, hact, hact', -, rfl⟩
    · rw [hfile'] at hbirth
      exact h.drains_closed hm hsuited hd (Option.map_eq_none_iff.mp hbirth.symm)
    · rw [hfile'] at hgen
      cases hgen
    · rw [List.append_nil]
      exact hd.ended hs hsuited hact hact'
  closes hrest' := by
    rcases h.comes_to_rest hrest' with ⟨hrest, -⟩ | ⟨hact, -⟩ | ⟨en, hact, rfl⟩
    · rcases h.of_resting hrest with ⟨-, hwake, -⟩ | ⟨-, hfile, -⟩
      · exact absurd hwake hm
      · exact hfile.trans (hd.closes hrest)
    · cases hd.disabled _ _ hact
    · exact hs.file_eq_none hact rfl

/-! ## The wake after a stop -/

/-- A wake on a disabled stream with an open file writes what it takes until the file ends, and it
takes everything that was queued. -/
theorem drains_run (hs : s.Shaped) (hsuited : s.Suited) (hlanes : s.LanesSound)
    (hd : Drains policy start s before) {ms : List Move} (hms : ∀ m ∈ ms, m ≠ .wake) :
    Drains policy start (s.run ms).1 (before ++ (s.run ms).2) ∧
      ∀ kind t, kind ≠ .thumbnail → Empties kind t s before →
        Empties kind t (s.run ms).1 (before ++ (s.run ms).2) := by
  induction ms generalizing s before with
  | nil =>
    simp only [run_nil, List.append_nil]
    exact ⟨hd, fun _ _ _ he => he⟩
  | cons m ms ih =>
    have hstep := s.step_move m
    obtain ⟨hdrains, hempties⟩ := ih (hstep.shaped hs) (hstep.suited hsuited)
      (hstep.buffers hlanes).1 (hstep.drains (hms m (.head _)) hs hsuited hd)
      fun m' hm' => hms m' (.tail _ hm')
    rw [run_cons, ← List.append_assoc]
    exact ⟨hdrains, fun kind t hkind he =>
      hempties kind t hkind (hstep.empties hlanes hd.disabled hkind he)⟩

/-- What is taken while nothing is taken in was queued. -/
theorem mem_queue_of_takenItems {ms : List Move} (hlanes : s.LanesSound)
    (hquiet : ∀ e ∈ (s.run ms).2, e.isAdmission = false) {x : Item}
    (hx : x ∈ takenItems (s.run ms).2) : x.lane ≠ .thumbnail ∧ x.ticket ∈ s.queue x.lane := by
  obtain ⟨e, he, htakes⟩ := List.mem_filterMap.mp hx
  obtain ⟨rfl, hkind⟩ := Entry.takes?_eq_some htakes
  refine ⟨hkind, ((buffers_run hlanes ms).2.mem_of_taken he).resolve_right fun hacc => ?_⟩
  cases hquiet _ hacc

/-- A stop, and what follows until the next wake, leave the worker, its file and the lanes as they
are. -/
theorem rests_of_stop (hrest : s.activity.task? = none) (hm : m = .stop ∨ m = .shutDown)
    {idle : List Move} (hidle : ∀ m ∈ idle, m ≠ .start ∧ m ≠ .wake) :
    s.Rests (s.run (m :: idle)).1 ∧ (s.run (m :: idle)).1.isEnabled = false := by
  have hstopped : s.Rests (s.move m).1 ∧ (s.move m).1.isEnabled = false := by
    rcases hm with rfl | rfl <;> exact ⟨⟨rfl, rfl, fun kind => by cases kind <;> rfl⟩, rfl⟩
  obtain ⟨hrests, hen⟩ := hstopped
  rw [run_cons]
  exact ⟨hrests.trans (rests_run (by rw [hrests.activity]; exact hrest) hen hidle),
    (refuses_run hen fun m' hm' => (hidle m' hm').1).1⟩

/-- A worker is woken on a disabled stream with an open file. -/
theorem drains_of_wake (hasleep : s.activity = .asleep) (hen : s.isEnabled = false)
    {file : OpenFile} (hfile : s.file = some file) :
    Drains s.policy file.startedAt (s.move .wake).1 [] := by
  rw [move_wake_disabled hasleep hen]
  exact {
    policy_eq := rfl
    disabled := by
      intro en task h
      cases h
      rfl
    reopening := by
      intro en task t hact hnext
      cases hact
      cases hnext
    opened := by
      intro file' hfile'
      cases hfile.symm.trans hfile'
      exact ⟨rfl, rfl, nofun⟩
    closed := fun hnone => by cases hfile.symm.trans hnone
    closes := nofun }

theorem queue_move_wake (hasleep : s.activity = .asleep) (hen : s.isEnabled = false)
    (kind : LaneKind) : (s.move .wake).1.queue kind = s.queue kind := by
  rw [move_wake_disabled hasleep hen]
  cases kind <;> rfl

theorem empties_of_wake (hasleep : s.activity = .asleep) (hen : s.isEnabled = false)
    (ht : t ∈ s.queue kind) : Empties kind t (s.move .wake).1 [] := by
  refine ⟨.inl (by rwa [queue_move_wake hasleep hen]), fun hlast => ?_⟩
  rw [move_wake_disabled hasleep hen] at hlast
  rcases hlast .taking rfl with h | h <;> cases h

/-- Whatever is taken is handed over exactly if no queued frame ends the file. -/
theorem handed_iff {xs : List Item}
    (hsub : ∀ x ∈ xs, x.lane ≠ .thumbnail ∧ x.ticket ∈ s.queue x.lane)
    (hall : ∀ kind t, kind ≠ .thumbnail → t ∈ s.queue kind → ⟨kind, t⟩ ∈ xs) :
    (∀ kind t, kind ≠ .thumbnail → t ∈ s.queue kind →
        ⟨kind, t⟩ ∈ xs.takeWhile (!·.ends policy start)) ↔
      ∀ t ∈ s.queue .video, Item.ends policy start ⟨.video, t⟩ = false := by
  constructor
  · intro hhanded t ht
    simpa using List.mem_takeWhile_imp (hhanded .video t nofun ht)
  · intro hnone kind t hkind ht
    have hself : xs.takeWhile (!·.ends policy start) = xs := by
      refine List.takeWhile_eq_self_iff.mpr fun x hx => ?_
      obtain ⟨lane, u⟩ := x
      cases lane with
      | video => simp [hnone u (hsub _ hx).2]
      | audio => rfl
      | thumbnail => exact absurd rfl (hsub _ hx).1
    rw [hself]
    exact hall kind t hkind ht

/-- **After a stop, what is queued is written up to the first frame that ends the file.** The worker
of a stream sleeps with an open file when the stream is stopped, and is woken before the next start.
When that wake is over, every video and audio frame that was queued was taken, or made room for
another; what was handed over is what was taken before the first frame that ends the file; and the
file is closed. So unless the stream is started during the wake, nothing that was queued is lost
exactly if no queued frame ends the file. -/
theorem stop_drains (handle : StreamHandle) (config : StreamConfig)
    (before idle during : List Move) {m : Move} {file : OpenFile}
    (hm : m = .stop ∨ m = .shutDown) (hidle : ∀ m ∈ idle, m ≠ .start ∧ m ≠ .wake)
    (hduring : ∀ m ∈ during, m ≠ .wake)
    (hasleep : ((create handle config).run before).1.activity = .asleep)
    (hfile : ((create handle config).run before).1.file = some file) :
    let s := ((create handle config).run before).1
    let w := ((s.run (m :: idle)).1.move .wake).1
    let es := (w.run during).2
    let s' := (w.run during).1
    w.activity = .awake false .taking ∧ (s'.activity.task? = none →
      handedItems es = (takenItems es).takeWhile (!·.ends s.policy file.startedAt) ∧
      s'.file = none ∧
      (∀ kind t, kind ≠ .thumbnail → t ∈ s.queue kind → Leaves kind t es) ∧
      (.start ∉ during →
        ((∀ kind t, kind ≠ .thumbnail → t ∈ s.queue kind → ⟨kind, t⟩ ∈ handedItems es) ↔
          ∀ t ∈ s.queue .video, Item.ends s.policy file.startedAt ⟨.video, t⟩ = false))) := by
  intro s w es s'
  have hrest : s.activity.task? = none := by
    rw [hasleep]
    rfl
  obtain ⟨hrests, hdisabled⟩ := rests_of_stop hrest hm hidle
  have hsleeps := hrests.activity.trans hasleep
  have hw : w = ((create handle config).run (before ++ (m :: idle) ++ [.wake])).1 := by
    rw [run_append, run_append]
    rfl
  have hlanes : w.LanesSound := hw ▸ (buffers_run (lanesSound_create handle config) _).1
  have hpolicy : (s.run (m :: idle)).1.policy = s.policy := by
    rw [policy, (s.same_run (m :: idle)).config]
    rfl
  obtain ⟨hdrains, hempties⟩ := drains_run (hw ▸ shaped_run (shaped_create handle config) _)
    (hw ▸ suited_run (suited_create handle config) _) hlanes
    (hpolicy ▸ drains_of_wake hsleeps hdisabled (hrests.file.trans hfile)) hduring
  refine ⟨by rw [show w = _ from congrArg Prod.fst (move_wake_disabled hsleeps hdisabled)],
    fun hover => ?_⟩
  have hnone := hdrains.closes hover
  have hhanded : handedItems es = (takenItems es).takeWhile (!·.ends s.policy file.startedAt) :=
    (hdrains.closed hnone).1
  have hleaves (kind : LaneKind) (t : Ticket) (hkind : kind ≠ .thumbnail) (ht : t ∈ s.queue kind) :
      Leaves kind t es := by
    have hqueued : t ∈ (s.run (m :: idle)).1.queue kind := by rwa [hrests.queue]
    exact (hempties kind t hkind (empties_of_wake hsleeps hdisabled hqueued)).leaves
      (.of_rest hover)
  refine ⟨hhanded, hnone, hleaves, fun hstart => ?_⟩
  -- nothing is taken in, so what is taken is what was queued
  have hen : w.isEnabled = false :=
    ((s.run (m :: idle)).1.step_move .wake).isEnabled_eq_false Move.noConfusion hdisabled
  have hquiet := (refuses_run hen fun m' hm' heq => hstart (heq ▸ hm')).2
  rw [hhanded]
  refine handed_iff (fun x hx => ?_) fun kind t hkind ht => ?_
  · obtain ⟨hkind, hqueued⟩ := mem_queue_of_takenItems hlanes hquiet hx
    refine ⟨hkind, ?_⟩
    rwa [queue_move_wake hsleeps hdisabled, hrests.queue] at hqueued
  · rcases hleaves kind t hkind ht with htaken | ⟨-, hevicted⟩
    · refine List.mem_filterMap.mpr ⟨_, htaken, ?_⟩
      cases kind with
      | video | audio => rfl
      | thumbnail => exact absurd rfl hkind
    · cases hquiet _ hevicted

/-- Three more frames are queued; the second of them ends the file. -/
def queuedPastEnd : List Move :=
  recordedOnce ++ [.submit .video ⟨[2], 200000, false⟩, .submit .video ⟨[3], 1000000, true⟩,
    .submit .video ⟨[4], 1200000, false⟩]

/-- A wake that takes three frames and throws out what is left. -/
def drainingWake : List Move :=
  [.advance, .advance, .reply none, .advance, .advance, .advance, .advance, .reply none,
    .reply none, .reply none, .advance, .advance, .advance, .advance, .advance, .advance, .advance,
    .advance]

/-- The first of the queued frames is written, the others are taken and lost. -/
theorem stop_drains_to_end :
    let s := ((create ⟨0, 0, 0⟩ secondLong).run queuedPastEnd).1
    let es := ((s.run [.stop, .wake]).1.run drainingWake).2
    s.queue .video = [⟨1, [2], 200000, false⟩, ⟨2, [3], 1000000, true⟩, ⟨3, [4], 1200000, false⟩] ∧
      takenItems es = (s.queue .video).map (⟨.video, ·⟩) ∧
      handedItems es = [⟨.video, 1, [2], 200000, false⟩] := by
  intro s es
  have hdrains := stop_drains ⟨0, 0, 0⟩ secondLong queuedPastEnd [] drainingWake (.inl rfl)
    (by simp) (by simp [drainingWake]) (by decide) rfl
  have hhanded := (hdrains.2 (by decide)).1
  exact ⟨by decide, by decide, hhanded.trans (by decide)⟩

/-- So a stop can lose what is queued, even if no call fails and the stream is not started again:
the key frame that ends the file, and every frame behind it. -/
theorem stop_loses_queued :
    ¬ ∀ (handle : StreamHandle) (config : StreamConfig) (before during : List Move),
      let s := ((create handle config).run before).1
      let w := (s.run [.stop, .wake]).1
      let es := (w.run during).2
      s.activity = .asleep → s.file.isSome = true →
      (∀ m ∈ during, m = .advance ∨ m = .reply none) →
      (w.run during).1.activity.task? = none →
      ∀ kind t, kind ≠ .thumbnail → t ∈ s.queue kind → ⟨kind, t⟩ ∈ handedItems es := by
  intro hkeeps
  have hlost := hkeeps ⟨0, 0, 0⟩ secondLong queuedPastEnd drainingWake (by decide) (by decide)
    (by simp [drainingWake]) (by decide) .video ⟨2, [3], 1000000, true⟩ nofun (by decide)
  revert hlost
  decide

end Stream

end CameraRecorder
