import CameraRecorder.Proofs.Lane.Operations
import CameraRecorder.Proofs.Stream.Run
import Mathlib.Logic.Function.Basic

/-!
# The journal tells what the lanes hold

Whatever enters or leaves a lane is an entry of the journal, so the lanes can be forgotten: a stream
seen through its lanes (`Stream.buffers`) is three lists of tickets, and its journal is a run of
`Buffers.Step`, which has one rule for each kind of entry. The rule for a frame that is taken says
that it comes before every frame left waiting in either lane.
-/

namespace CameraRecorder

/-! ## Frames of a stream -/

/-- A frame of a stream: the lane that took it, and its ticket. -/
structure Item where
  lane : LaneKind
  ticket : Ticket
deriving DecidableEq, Repr

/-- The order of presentation: by timestamp; a video frame first where timestamps are equal; by
arrival within a lane. -/
def Item.RanksBefore (a b : Item) : Prop :=
  a.ticket.frame.pts < b.ticket.frame.pts
    ∨ a.ticket.frame.pts = b.ticket.frame.pts
      ∧ (a.lane = .video ∧ b.lane = .audio ∨ a.lane = b.lane ∧ a.ticket.arrival < b.ticket.arrival)

instance : DecidableRel Item.RanksBefore := fun a b => by
  unfold Item.RanksBefore
  infer_instance

/-- Within a lane, the order of presentation is the order in which the lane keeps its tickets. -/
theorem Item.ranksBefore_of_lane {kind : LaneKind} {a b : Ticket} :
    (Item.mk kind a).RanksBefore ⟨kind, b⟩ ↔ a.Precedes b := by
  cases kind <;> simp [Item.RanksBefore, Ticket.Precedes]

theorem Item.RanksBefore.le {a b : Item} (h : a.RanksBefore b) :
    a.ticket.frame.pts ≤ b.ticket.frame.pts := by
  rcases h with h | ⟨h, -⟩
  · exact Int64.le_iff_lt_or_eq.mpr (.inl h)
  · exact Int64.le_iff_lt_or_eq.mpr (.inr h)

theorem Item.RanksBefore.asymm {a b : Item} (h : a.RanksBefore b) : ¬ b.RanksBefore a := by
  have hirrefl : ∀ x : Timestamp, ¬ x < x := fun x hx => by
    rw [Int64.lt_iff_toInt_lt] at hx
    omega
  rcases h with h | ⟨h, hlane | ⟨hlane, harr⟩⟩
  · intro h'
    have := h'.le
    rw [Int64.lt_iff_toInt_lt] at h
    rw [Int64.le_iff_toInt_le] at this
    omega
  · rintro (h' | ⟨-, h' | ⟨h', -⟩⟩)
    · exact hirrefl _ (h ▸ h')
    · simp [hlane.1] at h'
    · simp [hlane.1, hlane.2] at h'
  · rintro (h' | ⟨-, h' | ⟨-, h'⟩⟩)
    · exact hirrefl _ (h ▸ h')
    · exact absurd (h'.1.symm.trans (hlane.symm.trans h'.2)) (by decide)
    · omega

/-- Whether an entry tells of a frame that enters or leaves a lane. -/
def Entry.isTransfer : Entry → Bool
  | .accepted .. | .evicted _ | .discarded .. | .taken .. => true
  | _ => false

/-! ## Lists of tickets -/

/-- The lanes of a stream as lists of tickets, with the next arrival number of each. -/
@[ext] structure Buffers where
  queue : LaneKind → List Ticket
  arrivals : LaneKind → Nat

namespace Buffers

/-- The buffers with another list in one place. -/
def put (b : Buffers) (kind : LaneKind) (ts : List Ticket) : Buffers :=
  { b with queue := Function.update b.queue kind ts }

/-- The buffers with one more ticket given out. -/
def count (b : Buffers) (kind : LaneKind) : Buffers :=
  { b with arrivals := Function.update b.arrivals kind (b.arrivals kind + 1) }

@[simp] theorem queue_put (b : Buffers) (kind k : LaneKind) (ts : List Ticket) :
    (b.put kind ts).queue k = if k = kind then ts else b.queue k := by
  by_cases h : k = kind
  · subst h
    simp [put]
  · simp [put, h]

theorem mem_queue_put {b : Buffers} {kind k : LaneKind} {ts : List Ticket} {t : Ticket}
    (h : t ∈ (b.put kind ts).queue k) : k = kind ∧ t ∈ ts ∨ t ∈ b.queue k := by
  rw [queue_put] at h
  by_cases hk : k = kind
  · rw [if_pos hk] at h
    exact .inl ⟨hk, h⟩
  · rw [if_neg hk] at h
    exact .inr h

@[simp] theorem arrivals_put (b : Buffers) (kind : LaneKind) (ts : List Ticket) :
    (b.put kind ts).arrivals = b.arrivals := rfl

@[simp] theorem queue_count (b : Buffers) (kind : LaneKind) : (b.count kind).queue = b.queue := rfl

@[simp] theorem arrivals_count (b : Buffers) (kind k : LaneKind) :
    (b.count kind).arrivals k = if k = kind then b.arrivals kind + 1 else b.arrivals k := by
  by_cases h : k = kind
  · subst h
    simp [count]
  · simp [count, h]

/-- What an entry does to the buffers. A frame is only taken out of the video or the audio lane if
it ranks before all that are left there. -/
inductive Step : Buffers → Entry → Buffers → Prop
  | accepted {b kind frame} :
    Step b (.accepted kind ⟨b.arrivals kind, frame⟩)
      ((b.put kind (Ticket.insert ⟨b.arrivals kind, frame⟩ (b.queue kind))).count kind)
  | evicted {b ticket pre post} (h : b.queue .video = pre ++ ticket :: post)
    (hkey : ticket.frame.isKey = false) (hpre : ∀ t ∈ pre, t.frame.isKey = true) :
    Step b (.evicted ticket) (b.put .video (pre ++ post))
  | discarded {b kind} : Step b (.discarded kind (b.queue kind)) (b.put kind [])
  | taken {b kind ticket rest} (h : b.queue kind = ticket :: rest)
    (hfirst : kind ≠ .thumbnail → ∀ k t, k ≠ .thumbnail → t ∈ (b.put kind rest).queue k →
      (Item.mk kind ticket).RanksBefore ⟨k, t⟩) :
    Step b (.taken kind ticket) (b.put kind rest)
  | other {b e} (h : e.isTransfer = false) : Step b e b

/-- What a journal does to the buffers. -/
inductive Steps : Buffers → List Entry → Buffers → Prop
  | nil {b} : Steps b [] b
  | cons {b e b' es b''} (h : Step b e b') (hs : Steps b' es b'') : Steps b (e :: es) b''

theorem Steps.single {b b' : Buffers} {e : Entry} (h : Step b e b') : Steps b [e] b' :=
  .cons h .nil

theorem Steps.append {b b' b'' : Buffers} {es es' : List Entry} (h : Steps b es b')
    (h' : Steps b' es' b'') : Steps b (es ++ es') b'' := by
  induction h with
  | nil => exact h'
  | cons hd _ ih => exact .cons hd (ih h')

theorem Steps.others (b : Buffers) {es : List Entry} (h : ∀ e ∈ es, e.isTransfer = false) :
    Steps b es b := by
  induction es with
  | nil => exact .nil
  | cons e es ih =>
    exact .cons (.other (h e (by simp))) (ih fun e' he' => h e' (by simp [he']))

theorem Steps.optional (b : Buffers) {α : Type} (o : Option α) {f : α → Entry}
    (h : ∀ a, (f a).isTransfer = false) : Steps b (o.map f).toList b := by
  cases o with
  | none => exact .nil
  | some a => exact .single (.other (h a))

end Buffers

/-! ## The lanes of a stream -/

namespace Stream

variable {s s₁ s' : Stream} {kind : LaneKind} {l l' : Lane} {t : Ticket} {p : Pending} {m : Move}
  {es : List Entry}

/-- The tickets that wait in a lane. A lane that does not exist holds none. -/
def queue (s : Stream) (kind : LaneKind) : List Ticket := ((s.lane? kind).map Lane.tickets).getD []

/-- The stream seen through its lanes. -/
def buffers (s : Stream) : Buffers where
  queue := s.queue
  arrivals kind := ((s.lane? kind).map Lane.arrivals).getD 0

/-- Every lane of the stream is sound, and stands in its place. -/
def LanesSound (s : Stream) : Prop := ∀ kind l, s.lane? kind = some l → l.Sound ∧ l.kind = kind

theorem lanesSound_create (handle : StreamHandle) (config : StreamConfig) :
    (create handle config).LanesSound := by
  intro kind l hl
  cases kind with
  | video =>
    cases hl
    exact ⟨Lane.sound_create .., rfl⟩
  | thumbnail =>
    cases hl
    exact ⟨Lane.sound_create .., rfl⟩
  | audio =>
    obtain ⟨params, -, rfl⟩ := Option.map_eq_some_iff.mp hl
    exact ⟨Lane.sound_create .., rfl⟩

theorem queue_of_lane (h : s.lane? kind = some l) : s.buffers.queue kind = l.tickets := by
  simp [buffers, queue, h]

theorem arrivals_of_lane (h : s.lane? kind = some l) : s.buffers.arrivals kind = l.arrivals := by
  simp [buffers, h]

/-! ## Setting a lane -/

theorem lane?_setLane (s : Stream) (l : Lane) (kind k : LaneKind) :
    (s.setLane l kind).lane? k = if k = kind then some l else s.lane? k := by
  cases kind <;> cases k <;> rfl

@[simp] theorem lane?_setLane_self (s : Stream) (l : Lane) (kind : LaneKind) :
    (s.setLane l kind).lane? kind = some l := by
  simp [lane?_setLane]

@[simp] theorem setLane_setLane (s : Stream) (l l' : Lane) (kind : LaneKind) :
    (s.setLane l kind).setLane l' kind = s.setLane l' kind := by
  cases kind <;> rfl

theorem LanesSound.setLane (hs : s.LanesSound) (hl : l.Sound) (hkind : l.kind = kind) :
    (s.setLane l kind).LanesSound := by
  intro k m hm
  rw [lane?_setLane] at hm
  by_cases hk : k = kind
  · rw [if_pos hk] at hm
    cases hm
    exact ⟨hl, hkind.trans hk.symm⟩
  · rw [if_neg hk] at hm
    exact hs k m hm

theorem queue_setLane (s : Stream) (l : Lane) (kind k : LaneKind) :
    (s.setLane l kind).buffers.queue k = if k = kind then l.tickets else s.buffers.queue k := by
  by_cases hk : k = kind <;> simp [buffers, queue, lane?_setLane, hk]

theorem arrivals_setLane (s : Stream) (l : Lane) (kind k : LaneKind) :
    (s.setLane l kind).buffers.arrivals k
      = if k = kind then l.arrivals else s.buffers.arrivals k := by
  by_cases hk : k = kind <;> simp [buffers, lane?_setLane, hk]

theorem buffers_setLane (harr : l.arrivals = s.buffers.arrivals kind) :
    (s.setLane l kind).buffers = s.buffers.put kind l.tickets := by
  refine Buffers.ext (funext fun k => ?_) (funext fun k => ?_)
  · rw [queue_setLane, Buffers.queue_put]
  · rw [arrivals_setLane, Buffers.arrivals_put, harr]
    by_cases hk : k = kind <;> simp [hk]

theorem buffers_setLane_count (harr : l.arrivals = s.buffers.arrivals kind + 1) :
    (s.setLane l kind).buffers = (s.buffers.put kind l.tickets).count kind := by
  refine Buffers.ext (funext fun k => ?_) (funext fun k => ?_)
  · rw [queue_setLane, Buffers.queue_count, Buffers.queue_put]
  · rw [arrivals_setLane, Buffers.arrivals_count, Buffers.arrivals_put, harr]

/-! ## Transfers -/

/-- A lane that takes a frame in. -/
theorem LanesSound.accept (hs : s.LanesSound) (hl : s.lane? kind = some l) {frame : Frame}
    (hp : l.push? frame = some (t, l')) :
    (s.setLane l' kind).LanesSound ∧
      Buffers.Step s.buffers (.accepted kind t) (s.setLane l' kind).buffers := by
  obtain ⟨hsound, hkind⟩ := hs kind l hl
  obtain ⟨hsound', rfl, htickets, harr, hunmoved⟩ := hsound.push hp
  refine ⟨hs.setLane hsound' (hunmoved.kind.trans hkind), ?_⟩
  rw [buffers_setLane_count (harr.trans (by rw [arrivals_of_lane hl])), htickets,
    ← queue_of_lane hl, ← arrivals_of_lane hl]
  exact .accepted

/-- A lane that throws a frame out to make room. -/
theorem LanesSound.evict (hs : s.LanesSound) (hl : s.lane? kind = some l)
    (hd : l.dropNonKey? = some (t, l')) :
    (s.setLane l' kind).LanesSound ∧
      Buffers.Step s.buffers (.evicted t) (s.setLane l' kind).buffers := by
  obtain ⟨hsound, hkind⟩ := hs kind l hl
  obtain ⟨hsound', hvideo, hkey, ⟨pre, post, htickets, htickets', hpre⟩, harr, hunmoved⟩ :=
    hsound.dropNonKey hd
  refine ⟨hs.setLane hsound' (hunmoved.kind.trans hkind), ?_⟩
  rw [buffers_setLane (harr.trans (arrivals_of_lane hl).symm), htickets']
  obtain rfl : kind = .video := hkind.symm.trans hvideo
  exact .evicted ((queue_of_lane hl).trans htickets) hkey hpre

/-- A lane that throws everything out. -/
theorem LanesSound.discard (hs : s.LanesSound) (kind : LaneKind) (hl : s.lane? kind = some l) :
    (s.setLane l.drain.2 kind).LanesSound ∧
      Buffers.Step s.buffers (.discarded kind l.drain.1) (s.setLane l.drain.2 kind).buffers := by
  obtain ⟨hsound, hkind⟩ := hs kind l hl
  obtain ⟨hsound', hall, hnone, harr, hunmoved⟩ := hsound.drain
  refine ⟨hs.setLane hsound' (hunmoved.kind.trans hkind), ?_⟩
  rw [buffers_setLane (harr.trans (arrivals_of_lane hl).symm), hall, hnone, ← queue_of_lane hl]
  exact .discarded

/-- A lane that gives up its first frame, before all that wait in the other lane. -/
theorem LanesSound.take (hs : s.LanesSound) (hl : s.lane? kind = some l)
    (hp : l.pop? = some (t, l'))
    (hfirst : kind ≠ .thumbnail → ∀ k u, k ≠ .thumbnail → k ≠ kind → u ∈ s.buffers.queue k →
      (Item.mk kind t).RanksBefore ⟨k, u⟩) :
    (s.setLane l' kind).LanesSound ∧
      Buffers.Step s.buffers (.taken kind t) (s.setLane l' kind).buffers := by
  obtain ⟨hsound, hkind⟩ := hs kind l hl
  obtain ⟨hsound', htickets, harr, hunmoved⟩ := hsound.pop hp
  refine ⟨hs.setLane hsound' (hunmoved.kind.trans hkind), ?_⟩
  rw [buffers_setLane (harr.trans (arrivals_of_lane hl).symm)]
  refine .taken ((queue_of_lane hl).trans htickets) fun hkind' k u hk hu => ?_
  by_cases hkk : k = kind
  · -- the lane itself is sorted
    subst hkk
    rw [Buffers.queue_put, if_pos rfl] at hu
    have hsorted := hsound.sorted
    rw [htickets] at hsorted
    exact Item.ranksBefore_of_lane.mpr ((List.pairwise_cons.mp hsorted).1 u hu)
  · rw [Buffers.queue_put, if_neg hkk] at hu
    exact hfirst hkind' k u hk hkk hu

/-- The timestamp seen at the head of a lane is the least in it. -/
theorem LanesSound.le_of_peek (hs : s.LanesSound) (hl : s.lane? kind = some l) {pts : Timestamp}
    (hp : l.peek? = some pts) : ∀ u ∈ s.buffers.queue kind, pts ≤ u.frame.pts := by
  obtain ⟨hsound, -⟩ := hs kind l hl
  have hsorted := hsound.sorted
  rw [hsound.peek_eq] at hp
  rw [queue_of_lane hl]
  cases htickets : l.tickets with
  | nil => simp [htickets] at hp
  | cons t ts =>
    rw [htickets] at hp hsorted
    cases hp
    intro u hu
    rcases List.mem_cons.mp hu with rfl | hu
    · exact Int64.le_iff_lt_or_eq.mpr (.inr rfl)
    · exact ((List.pairwise_cons.mp hsorted).1 u hu).le

/-! ## Taking frames -/

theorem LanesSound.takeVideo (hs : s.LanesSound) (h : s.takeVideo? = some (p, s₁))
    (hfirst : ∀ u pts, s.video.peek? = some pts → u ∈ s.buffers.queue .audio →
      pts ≤ u.frame.pts) :
    s₁.LanesSound ∧
      Buffers.Step s.buffers (.taken p.lane p.ticket) s₁.buffers := by
  obtain ⟨⟨t, l'⟩, hpop, heq⟩ := Option.map_eq_some_iff.mp h
  obtain ⟨rfl, rfl⟩ := Prod.mk.inj heq
  have hl : s.lane? .video = some s.video := rfl
  obtain ⟨hsound, -⟩ := hs .video s.video hl
  have hpeek : s.video.peek? = some t.frame.pts := by
    rw [hsound.peek_eq, (hsound.pop hpop).2.1]
    rfl
  refine hs.take hl hpop fun _ k u hk hkv hu => ?_
  cases k with
  | video => exact absurd rfl hkv
  | thumbnail => exact absurd rfl hk
  | audio =>
    rcases Int64.le_iff_lt_or_eq.mp (hfirst u _ hpeek hu) with hlt | heq
    · exact .inl hlt
    · exact .inr ⟨heq, .inl ⟨rfl, rfl⟩⟩

theorem LanesSound.takeAudio (hs : s.LanesSound) (h : s.takeAudio? = some (p, s₁))
    (hfirst : ∀ u pts, s.audio.bind Lane.peek? = some pts → u ∈ s.buffers.queue .video →
      pts < u.frame.pts) :
    s₁.LanesSound ∧
      Buffers.Step s.buffers (.taken p.lane p.ticket) s₁.buffers := by
  obtain ⟨⟨t, l'⟩, hbind, heq⟩ := Option.map_eq_some_iff.mp h
  obtain ⟨rfl, rfl⟩ := Prod.mk.inj heq
  obtain ⟨l, hl, hpop⟩ := Option.bind_eq_some_iff.mp hbind
  obtain ⟨hsound, -⟩ := hs .audio l hl
  have hpeek : s.audio.bind Lane.peek? = some t.frame.pts := by
    rw [hl, Option.bind_some, hsound.peek_eq, (hsound.pop hpop).2.1]
    rfl
  refine hs.take (show s.lane? .audio = some l from hl) hpop fun _ k u hk hka hu => ?_
  cases k with
  | audio => exact absurd rfl hka
  | thumbnail => exact absurd rfl hk
  | video =>
    exact .inl (hfirst u _ hpeek hu)

/-- The frame that is taken is the first of both lanes. -/
theorem LanesSound.takeFrame (hs : s.LanesSound) (h : s.takeFrame? = some (p, s₁)) :
    s₁.LanesSound ∧
      Buffers.Step s.buffers (.taken p.lane p.ticket) s₁.buffers := by
  unfold takeFrame? at h
  cases hv : s.video.peek? with
  | none =>
    cases ha : s.audio.bind Lane.peek? with
    | none => simp [hv, ha] at h
    | some a =>
      -- no video waits
      rw [hv, ha] at h
      obtain ⟨hsound, -⟩ := hs .video s.video rfl
      have hempty : s.video.tickets = [] := by simpa [hsound.peek_eq] using hv
      refine hs.takeAudio h fun u pts _ hu => ?_
      rw [queue_of_lane (l := s.video) rfl, hempty] at hu
      cases hu
  | some v =>
    have hvideo := hs.le_of_peek (show s.lane? .video = some s.video from rfl) hv
    cases ha : s.audio.bind Lane.peek? with
    | none =>
      -- no audio waits
      rw [hv, ha] at h
      refine hs.takeVideo h fun u pts _ hu => ?_
      cases haudio : s.audio with
      | none => simp [buffers, queue, lane?, haudio] at hu
      | some l =>
        obtain ⟨hsound, -⟩ := hs .audio l haudio
        rw [haudio, Option.bind_some, hsound.peek_eq] at ha
        rw [queue_of_lane (show s.lane? .audio = some l from haudio)] at hu
        simp [show l.tickets = [] by simpa using ha] at hu
    | some a =>
      obtain ⟨l, hl, hpeek⟩ := Option.bind_eq_some_iff.mp ha
      have haudio := hs.le_of_peek (show s.lane? .audio = some l from hl) hpeek
      rw [hv, ha] at h
      -- audio goes first only if it is strictly earlier than all video
      by_cases hlt : a < v
      · simp only [hlt, if_true] at h
        refine hs.takeAudio h fun u pts hpts hu => ?_
        cases ha.symm.trans hpts
        exact Int64.lt_of_lt_of_le hlt (hvideo u hu)
      · simp only [hlt, if_false] at h
        refine hs.takeVideo h fun u pts hpts hu => ?_
        cases hv.symm.trans hpts
        exact Int64.le_trans (Int64.not_lt.mp hlt) (haudio u hu)

/-! ## Snapshots -/

theorem LanesSound.latchThumbnail (hs : s.LanesSound) :
    s.latchThumbnail.1.LanesSound ∧
      Buffers.Steps s.buffers s.latchThumbnail.2 s.latchThumbnail.1.buffers := by
  unfold Stream.latchThumbnail
  cases hfile : s.file with
  | none => exact ⟨hs, .nil⟩
  | some file =>
    by_cases hth : file.thumbnail.isSome = true
    · simp only [hth, if_true]
      exact ⟨hs, .nil⟩
    · simp only [hth, Bool.false_eq_true, if_false]
      cases hpop : s.thumbnails.pop? with
      | none => exact ⟨hs, .nil⟩
      | some r =>
        obtain ⟨t, l⟩ := r
        have := hs.take (show s.lane? .thumbnail = some s.thumbnails from rfl) hpop
          fun h => absurd rfl h
        exact ⟨this.1, .single this.2⟩

theorem LanesSound.collectThumbnail (hs : s.LanesSound) :
    s.collectThumbnail.1.LanesSound ∧
      Buffers.Steps s.buffers s.collectThumbnail.2 s.collectThumbnail.1.buffers := by
  obtain ⟨hs₁, hlatch⟩ := hs.latchThumbnail
  obtain ⟨hs₂, hdrop⟩ := hs₁.discard .thumbnail rfl
  exact ⟨hs₂, hlatch.append (.single hdrop)⟩

/-! ## Moves -/

theorem LanesSound.retire (hs : s.LanesSound) :
    s.retire.1.LanesSound ∧ Buffers.Steps s.buffers s.retire.2 s.retire.1.buffers := by
  obtain ⟨hs₁, hvideo⟩ := hs.discard .video rfl
  cases haudio : s.audio with
  | none =>
    obtain ⟨hs₂, hthumb⟩ := hs₁.discard .thumbnail rfl
    have hsame : (s.audio.map Lane.drain).map (·.2) = s.audio := by simp [haudio]
    have hnone : (s.audio.map Lane.drain).map (Entry.discarded .audio ·.1) = none := by
      simp [haudio]
    unfold Stream.retire
    simp only [hsame, hnone]
    exact ⟨hs₂, .cons hvideo (.single hthumb)⟩
  | some l =>
    obtain ⟨hs₂, haud⟩ := hs₁.discard .audio haudio
    obtain ⟨hs₃, hthumb⟩ := hs₂.discard .thumbnail rfl
    unfold Stream.retire
    simp only [haudio]
    exact ⟨hs₃, .cons hvideo (.cons haud (.single hthumb))⟩

theorem LanesSound.displace (hs : s.LanesSound) (hl : s.lane? kind = some l) {old : Ticket}
    {l₁ : Lane} {frame : Frame} (hd : l.dropNonKey? = some (old, l₁))
    (hp : l₁.push? frame = some (t, l')) :
    (s.setLane l' kind).LanesSound ∧
      Buffers.Steps s.buffers [.evicted old, .accepted kind t] (s.setLane l' kind).buffers := by
  obtain ⟨hs₁, hevict⟩ := hs.evict hl hd
  have := hs₁.accept (lane?_setLane_self ..) hp
  rw [setLane_setLane] at this
  exact ⟨this.1, .cons hevict (.single this.2)⟩

/-- **What a move does to the lanes is told by its entries.** -/
theorem Step.buffers (h : Step s m s' es) (hs : s.LanesSound) :
    s'.LanesSound ∧ Buffers.Steps s.buffers es s'.buffers := by
  cases h with
  | accept _ _ hl hp =>
    have := hs.accept hl hp
    exact ⟨this.1, .single this.2⟩
  | displace _ _ hl _ hd hp => exact hs.displace hl hd hp
  | take _ htake _ =>
    obtain ⟨hs₁, hstep⟩ := hs.takeFrame htake
    exact ⟨hs₁, .single hstep⟩
  | takeInterrupted _ htake _ =>
    obtain ⟨hs₁, hstep⟩ := hs.takeFrame htake
    exact ⟨hs₁, .single hstep⟩
  | sleep _ _ => exact hs.collectThumbnail
  | closeLast _ _ _ => exact hs.collectThumbnail
  | turnIdle _ _ _ => exact hs.collectThumbnail
  | collect _ => exact hs.collectThumbnail
  | retire _ => exact hs.retire
  | appendTrailer _ _ =>
    obtain ⟨hs₁, hlatch⟩ := hs.latchThumbnail
    exact ⟨hs₁, hlatch.append (.single (.other rfl))⟩
  | finishBare _ _ =>
    obtain ⟨hs₁, hlatch⟩ := hs.latchThumbnail
    exact ⟨hs₁, hlatch.append (.single (.other rfl))⟩
  | name _ => exact ⟨hs, (Buffers.Steps.optional _ _ fun _ => rfl).append (.single (.other rfl))⟩
  | nameless _ => exact ⟨hs, .optional _ _ fun _ => rfl⟩
  | misnamed => exact ⟨hs, .optional _ _ fun _ => rfl⟩
  | videoWritten _ _ _ => exact ⟨hs, .optional _ _ fun _ => rfl⟩
  | askThumbnail _ _ _ =>
    exact ⟨hs, (Buffers.Steps.optional _ _ fun _ => rfl).append (.single (.other rfl))⟩
  | videoStray _ _ => exact ⟨hs, .optional _ _ fun _ => rfl⟩
  | audioWritten _ => exact ⟨hs, .optional _ _ fun _ => rfl⟩
  | finish _ => exact ⟨hs, (Buffers.Steps.optional _ _ fun _ => rfl).append (.single (.other rfl))⟩
  | publish _ => exact ⟨hs, .optional _ _ fun _ => rfl⟩
  | tellEnd _ => exact ⟨hs, .optional _ _ fun _ => rfl⟩
  | _ => exact ⟨hs, .others _ (by simp [Entry.isTransfer])⟩

theorem buffers_run (hs : s.LanesSound) (ms : List Move) :
    (s.run ms).1.LanesSound ∧ Buffers.Steps s.buffers (s.run ms).2 (s.run ms).1.buffers := by
  refine run_induction (P := fun journal s' =>
    s'.LanesSound ∧ Buffers.Steps s.buffers journal s'.buffers) ?_ ⟨hs, .nil⟩ ms
  intro journal s₁ m s₂ es hmove ⟨hs₁, hsteps⟩
  obtain ⟨hs₂, hstep⟩ := hmove.buffers hs₁
  exact ⟨hs₂, hsteps.append hstep⟩

end Stream

end CameraRecorder
