import CameraRecorder.Proofs.Stream.Filming
import CameraRecorder.Proofs.Stream.Order
import CameraRecorder.Proofs.Stream.Restart
import Mathlib.Data.List.Count

/-!
# What becomes of a frame

A frame that was taken in waits in its lane or has left it in one of three ways. Frames are counted
one by one: whatever comes into a lane is then in it or has left it (`Buffers.Steps.conserves`), and
arrival numbers make sure that no frame comes in twice. So each frame has one fate (`Fate`), and for
each fate it is known which move brought it about.
-/

namespace CameraRecorder

/-! ## Ways into a lane and out of it -/

/-- The ways in which a frame leaves its lane. -/
inductive Exit where
  /-- It made room for another. -/
  | evicted
  /-- The worker took it. -/
  | taken
  /-- It was thrown out unused. -/
  | discarded
deriving DecidableEq, Repr

/-- The frames that an entry tells came into a lane. -/
def Entry.entrants : Entry → List Item
  | .accepted kind ticket => [⟨kind, ticket⟩]
  | _ => []

/-- The frames that an entry tells left a lane in a given way. -/
def Entry.leavers : Exit → Entry → List Item
  | .evicted, .evicted ticket => [⟨.video, ticket⟩]
  | .taken, .taken kind ticket => [⟨kind, ticket⟩]
  | .discarded, .discarded kind tickets => tickets.map (Item.mk kind)
  | _, _ => []

/-- The frames that came into a lane, in order. -/
def entrants (es : List Entry) : List Item := es.flatMap Entry.entrants

/-- The frames that left a lane in a given way, in order. -/
def leavers (exit : Exit) (es : List Entry) : List Item := es.flatMap (Entry.leavers exit)

@[simp] theorem entrants_append (es es' : List Entry) :
    entrants (es ++ es') = entrants es ++ entrants es' :=
  List.flatMap_append

@[simp] theorem leavers_append (exit : Exit) (es es' : List Entry) :
    leavers exit (es ++ es') = leavers exit es ++ leavers exit es' :=
  List.flatMap_append

theorem mem_entrants {es : List Entry} {x : Item} :
    x ∈ entrants es ↔ .accepted x.lane x.ticket ∈ es := by
  refine List.mem_flatMap.trans ⟨fun ⟨e, he, hx⟩ => ?_, fun h => ⟨_, h, by simp [Entry.entrants]⟩⟩
  unfold Entry.entrants at hx
  split at hx
  · cases List.mem_singleton.mp hx
    exact he
  · cases hx

theorem mem_leavers_evicted {es : List Entry} {x : Item} :
    x ∈ leavers .evicted es ↔ x.lane = .video ∧ .evicted x.ticket ∈ es := by
  obtain ⟨lane, ticket⟩ := x
  refine List.mem_flatMap.trans ⟨fun ⟨e, he, hx⟩ => ?_, ?_⟩
  · cases e <;> simp only [Entry.leavers, List.not_mem_nil, List.mem_singleton] at hx
    cases hx
    exact ⟨rfl, he⟩
  · rintro ⟨rfl, h⟩
    exact ⟨_, h, by simp [Entry.leavers]⟩

theorem mem_leavers_taken {es : List Entry} {x : Item} :
    x ∈ leavers .taken es ↔ .taken x.lane x.ticket ∈ es := by
  refine List.mem_flatMap.trans ⟨fun ⟨e, he, hx⟩ => ?_, fun h => ⟨_, h, by simp [Entry.leavers]⟩⟩
  cases e <;> simp only [Entry.leavers, List.not_mem_nil, List.mem_singleton] at hx
  cases hx
  exact he

theorem mem_leavers_discarded {es : List Entry} {x : Item} :
    x ∈ leavers .discarded es ↔ ∃ tickets, .discarded x.lane tickets ∈ es ∧ x.ticket ∈ tickets := by
  refine List.mem_flatMap.trans ⟨fun ⟨e, he, hx⟩ => ?_, fun ⟨tickets, h, ht⟩ => ⟨_, h, ?_⟩⟩
  · cases e <;> simp only [Entry.leavers, List.not_mem_nil, List.mem_map] at hx
    obtain ⟨ticket, ht, rfl⟩ := hx
    exact ⟨_, he, ht⟩
  · exact List.mem_map.mpr ⟨_, ht, rfl⟩

/-- What is taken for the writer is what is taken and is no snapshot. -/
theorem takenItems_eq (es : List Entry) :
    takenItems es = (leavers .taken es).filter (·.lane ≠ .thumbnail) := by
  induction es with
  | nil => rfl
  | cons e es ih =>
    rw [← List.singleton_append, takenItems_append, leavers_append, List.filter_append, ih]
    congr 1
    cases e with
    | taken kind ticket => cases kind <;> rfl
    | _ => rfl

theorem acceptedItems_eq (es : List Entry) :
    acceptedItems es = (entrants es).filter (·.lane ≠ .thumbnail) := by
  induction es with
  | nil => rfl
  | cons e es ih =>
    rw [← List.singleton_append, acceptedItems_append, entrants_append, List.filter_append, ih]
    congr 1
    cases e with
    | accepted kind ticket => cases kind <;> rfl
    | _ => rfl

namespace Buffers

variable {b b' : Buffers} {e : Entry} {es : List Entry}

/-! ## Conservation -/

/-- How often a frame waits. -/
def waitingCount (b : Buffers) (x : Item) : Nat := (b.queue x.lane).count x.ticket

theorem waitingCount_put (b : Buffers) (kind : LaneKind) (ts : List Ticket) (x : Item) :
    (b.put kind ts).waitingCount x + ((b.queue kind).map (Item.mk kind)).count x
      = b.waitingCount x + (ts.map (Item.mk kind)).count x := by
  obtain ⟨lane, ticket⟩ := x
  have hinjective : Function.Injective (Item.mk kind) := fun t u h => (Item.mk.inj h).2
  unfold waitingCount
  by_cases h : lane = kind
  · subst h
    rw [queue_put, if_pos rfl, List.count_map_of_injective _ _ hinjective,
      List.count_map_of_injective _ _ hinjective, Nat.add_comm]
  · have hnone (us : List Ticket) : (us.map (Item.mk kind)).count ⟨lane, ticket⟩ = 0 := by
      refine List.count_eq_zero.mpr fun hx => ?_
      obtain ⟨u, -, hu⟩ := List.mem_map.mp hx
      exact h (Item.mk.inj hu).1.symm
    rw [queue_put, if_neg h, hnone, hnone]

/-- **Whatever comes into a lane waits there or has left it.** -/
theorem Step.conserves (h : Step b e b') (x : Item) :
    b'.waitingCount x + (leavers .evicted [e]).count x + (leavers .taken [e]).count x
        + (leavers .discarded [e]).count x
      = b.waitingCount x + (entrants [e]).count x := by
  cases h with
  | @accepted kind frame =>
    have hput := b.waitingCount_put kind (Ticket.insert ⟨b.arrivals kind, frame⟩ (b.queue kind)) x
    rw [((List.perm_orderedInsert _ _ _).map (Item.mk kind)).count_eq, List.map_cons,
      List.count_cons] at hput
    have hin : (entrants [.accepted kind ⟨b.arrivals kind, frame⟩]).count x
        = if (⟨kind, ⟨b.arrivals kind, frame⟩⟩ : Item) == x then 1 else 0 := by
      simp [entrants, Entry.entrants, List.count_singleton]
    show (b.put kind _).waitingCount x + 0 + 0 + 0 = _
    omega
  | @evicted ticket pre post hq _ _ =>
    have hput := b.waitingCount_put .video (pre ++ post) x
    have hout : (leavers .evicted [.evicted ticket]).count x
        = if (⟨.video, ticket⟩ : Item) == x then 1 else 0 := by
      simp [leavers, Entry.leavers, List.count_singleton]
    rw [hq, List.map_append, List.map_cons, List.count_append, List.count_cons, List.map_append,
      List.count_append] at hput
    show _ + _ + 0 + 0 = _ + 0
    omega
  | @discarded kind =>
    have hput := b.waitingCount_put kind [] x
    have hout : (leavers .discarded [.discarded kind (b.queue kind)]).count x
        = ((b.queue kind).map (Item.mk kind)).count x := by
      simp [leavers, Entry.leavers]
    rw [List.map_nil, List.count_nil] at hput
    show _ + 0 + 0 + _ = _ + 0
    omega
  | @taken kind ticket rest hq _ =>
    have hput := b.waitingCount_put kind rest x
    have hout : (leavers .taken [.taken kind ticket]).count x
        = if (⟨kind, ticket⟩ : Item) == x then 1 else 0 := by
      simp [leavers, Entry.leavers, List.count_singleton]
    rw [hq, List.map_cons, List.count_cons] at hput
    show _ + 0 + _ + 0 = _ + 0
    omega
  | other h =>
    cases e with
    | accepted | evicted | discarded | taken => cases h
    | _ => rfl

theorem Steps.conserves (h : Steps b es b') (x : Item) :
    b'.waitingCount x + (leavers .evicted es).count x + (leavers .taken es).count x
        + (leavers .discarded es).count x
      = b.waitingCount x + (entrants es).count x := by
  induction h with
  | nil => rfl
  | @cons b e b₁ es b' hstep _ ih =>
    have hfirst := hstep.conserves x
    rw [← List.singleton_append]
    simp only [leavers_append, entrants_append, List.count_append]
    omega

/-- No frame comes in twice. -/
theorem Steps.nodup_entrants (h : Steps b es b') : (entrants es).Nodup := by
  induction h with
  | nil => exact List.nodup_nil
  | @cons b e b₁ es b' hstep hsteps ih =>
    rw [← List.singleton_append, entrants_append]
    cases hstep with
    | @accepted kind frame =>
      refine List.nodup_cons.mpr ⟨fun hlater => ?_, ih⟩
      -- what comes in later has a higher number
      have hle := (hsteps.arrival_of_accepted (mem_entrants.mp hlater)).1
      rw [arrivals_count, if_pos rfl] at hle
      exact absurd hle (Nat.not_succ_le_self _)
    | evicted | discarded | taken => exact ih
    | other h =>
      cases e with
      | accepted => cases h
      | _ => exact ih

end Buffers

/-! ## Fates -/

/-- What became of a frame that was taken in. -/
inductive Fate where
  /-- It waits in its lane. -/
  | waiting
  /-- It made room for another. -/
  | evicted
  /-- It was handed to the writer, once. -/
  | handed
  /-- The worker took it, and has not handed it over. -/
  | taken
  /-- It was thrown out unused. -/
  | discarded
deriving DecidableEq, Repr

/-- Whether a frame has a fate, as the stream is and as its journal tells. -/
def Fate.Holds (s : Stream) (journal : List Entry) (x : Item) : Fate → Prop
  | waiting => x.ticket ∈ s.queue x.lane
  | evicted => x.lane = .video ∧ .evicted x.ticket ∈ journal
  | handed => (handedItems journal).count x = 1
  | taken => .taken x.lane x.ticket ∈ journal ∧ x ∉ handedItems journal
  | discarded => ∃ tickets, .discarded x.lane tickets ∈ journal ∧ x.ticket ∈ tickets

namespace Stream

variable {s s' : Stream} {m : Move} {es : List Entry} {x : Item}

/-- A stream is new: its worker sleeps without a file, nothing waits, and nothing was written. -/
structure Fresh (s : Stream) : Prop where
  shaped : s.Shaped
  suited : s.Suited
  lanes : s.LanesSound
  asleep : s.activity = .asleep
  bare : s.file = none
  queue : ∀ kind, s.queue kind = []
  unwritten : s.framesWritten = 0

theorem fresh_create (handle : StreamHandle) (config : StreamConfig) :
    (create handle config).Fresh where
  shaped := shaped_create handle config
  suited := suited_create handle config
  lanes := lanesSound_create handle config
  asleep := rfl
  bare := rfl
  queue := queue_create handle config
  unwritten := rfl

/-- How often a frame is where in the life of a stream that was new. -/
theorem Fresh.conserves (hs : s.Fresh) (ms : List Move) (x : Item) :
    ((s.run ms).1.queue x.lane).count x.ticket + (leavers .evicted (s.run ms).2).count x
        + (leavers .taken (s.run ms).2).count x + (leavers .discarded (s.run ms).2).count x
      = (entrants (s.run ms).2).count x := by
  have hempty : s.buffers.waitingCount x = 0 := by
    rw [Buffers.waitingCount, show s.buffers.queue x.lane = [] from hs.queue x.lane]
    rfl
  have hcount := (buffers_run hs.lanes ms).2.conserves x
  rw [hempty, Nat.zero_add] at hcount
  exact hcount

theorem Fresh.nodup_entrants (hs : s.Fresh) (ms : List Move) : (entrants (s.run ms).2).Nodup :=
  (buffers_run hs.lanes ms).2.nodup_entrants

/-- No frame is taken twice. -/
theorem Fresh.nodup_taken (hs : s.Fresh) (ms : List Move) :
    (leavers .taken (s.run ms).2).Nodup := by
  refine List.nodup_iff_count_le_one.mpr fun x => ?_
  have hcount := hs.conserves ms x
  have hone := List.nodup_iff_count_le_one.mp (hs.nodup_entrants ms) x
  omega

/-- What is handed over was taken, in this order. -/
theorem Fresh.handed_sublist (hs : s.Fresh) (ms : List Move) :
    (handedItems (s.run ms).2 ++ (s.run ms).1.inHand).Sublist (takenItems (s.run ms).2) := by
  have hsub := s.handed_sublist ms
  rwa [inHand_asleep hs.asleep, List.nil_append] at hsub

/-- No frame is handed over twice, and none that is in hand was handed over. -/
theorem Fresh.nodup_handed (hs : s.Fresh) (ms : List Move) :
    (handedItems (s.run ms).2 ++ (s.run ms).1.inHand).Nodup := by
  have hsub := hs.handed_sublist ms
  rw [takenItems_eq] at hsub
  exact ((hs.nodup_taken ms).sublist List.filter_sublist).sublist hsub

/-- A frame that was handed over was taken. -/
theorem Fresh.taken_of_handed (hs : s.Fresh) {ms : List Move}
    (hx : x ∈ handedItems (s.run ms).2) : x ∈ leavers .taken (s.run ms).2 := by
  have htaken := (hs.handed_sublist ms).subset (List.mem_append_left _ hx)
  rw [takenItems_eq] at htaken
  exact (List.mem_filter.mp htaken).1

/-- **Every frame that was taken in has exactly one fate.** -/
theorem Fresh.fate (hs : s.Fresh) (ms : List Move) (hx : x ∈ acceptedItems (s.run ms).2) :
    ∃! fate, Fate.Holds (s.run ms).1 (s.run ms).2 x fate := by
  rw [acceptedItems_eq, List.mem_filter] at hx
  -- the frame came in once, so it is in one place
  have hcount := hs.conserves ms x
  rw [List.count_eq_one_of_mem (hs.nodup_entrants ms) hx.1] at hcount
  have hwaiting : Fate.Holds (s.run ms).1 (s.run ms).2 x .waiting ↔ 0 < _ :=
    List.count_pos_iff.symm
  have hevicted : Fate.Holds (s.run ms).1 (s.run ms).2 x .evicted ↔ 0 < _ :=
    mem_leavers_evicted.symm.trans List.count_pos_iff.symm
  have hhanded : Fate.Holds (s.run ms).1 (s.run ms).2 x .handed ↔
      0 < (leavers .taken (s.run ms).2).count x ∧ x ∈ handedItems (s.run ms).2 := by
    refine ⟨fun h => ?_, fun h =>
      List.count_eq_one_of_mem (List.nodup_append.mp (hs.nodup_handed ms)).1 h.2⟩
    have hmem : x ∈ handedItems (s.run ms).2 := List.count_pos_iff.mp (h ▸ Nat.one_pos)
    exact ⟨List.count_pos_iff.mpr (hs.taken_of_handed hmem), hmem⟩
  have htaken : Fate.Holds (s.run ms).1 (s.run ms).2 x .taken ↔ 0 < _ ∧ _ :=
    and_congr_left fun _ => mem_leavers_taken.symm.trans List.count_pos_iff.symm
  have hdiscarded : Fate.Holds (s.run ms).1 (s.run ms).2 x .discarded ↔ 0 < _ :=
    mem_leavers_discarded.symm.trans List.count_pos_iff.symm
  generalize Fate.Holds (s.run ms).1 (s.run ms).2 x = holds at *
  generalize ((s.run ms).1.queue x.lane).count x.ticket = waiting at *
  generalize (leavers .evicted (s.run ms).2).count x = evicted at *
  generalize (leavers .taken (s.run ms).2).count x = taken at *
  generalize (leavers .discarded (s.run ms).2).count x = discarded at *
  obtain ⟨fate, h⟩ : ∃ fate, holds fate := by
    rcases (show 0 < waiting ∨ 0 < evicted ∨ 0 < taken ∨ 0 < discarded by omega)
      with h | h | h | h
    · exact ⟨.waiting, hwaiting.mpr h⟩
    · exact ⟨.evicted, hevicted.mpr h⟩
    · by_cases hx : x ∈ handedItems (s.run ms).2
      · exact ⟨.handed, hhanded.mpr ⟨h, hx⟩⟩
      · exact ⟨.taken, htaken.mpr ⟨h, hx⟩⟩
    · exact ⟨.discarded, hdiscarded.mpr h⟩
  refine ⟨fate, h, fun fate' h' => ?_⟩
  cases fate <;> cases fate' <;>
    simp only [hwaiting, hevicted, hhanded, htaken, hdiscarded] at h h' <;>
    first
      | rfl
      | (exfalso; omega)
      | exact absurd h.2 h'.2
      | exact absurd h'.2 h.2

/-! ## Pushes -/

/-- The frame that a move submits, if a lane takes it. -/
def pushed? (s : Stream) : Move → Option (LaneKind × Frame)
  | .submit kind frame => if (s.submit kind frame).isOk then some (kind, frame) else none
  | .retry kind frame => if (s.offer kind frame false).isOk then some (kind, frame) else none
  | _ => none

/-- The frames that were submitted with success, in order. -/
def pushed (s : Stream) : List Move → List (LaneKind × Frame)
  | [] => []
  | m :: ms => (s.pushed? m).toList ++ (s.move m).1.pushed ms

/-- A lane gives the frame that it takes in a ticket, and keeps it as it is. -/
theorem frame_of_push {l l' : Lane} {frame : Frame} {t : Ticket}
    (h : l.push? frame = some (t, l')) : t.frame = frame := by
  obtain ⟨r, -, hr⟩ := Option.map_eq_some_iff.mp h
  rw [← (Prod.mk.inj hr).1]

/-- An offer that is taken brings the frame in, and no other. -/
theorem entrants_of_offer {kind : LaneKind} {frame : Frame} {mayDrop : Bool}
    {r : Stream × List Entry} (h : s.offer kind frame mayDrop = .ok r) :
    (entrants r.2).map (fun x => (x.lane, x.ticket.frame)) = [(kind, frame)] := by
  unfold offer at h
  split at h
  · cases h
  · next lane hlane =>
    split at h
    · cases h
    · split at h
      · next hpush =>
        cases h
        exact congrArg (fun f => [(kind, f)]) (frame_of_push hpush)
      · split at h
        · cases h
        · split at h
          · cases h
          · split at h
            · next hpush =>
              cases h
              exact congrArg (fun f => [(kind, f)]) (frame_of_push hpush)
            · cases h

/-- **How a frame comes in.** The lane has room for it, or another frame makes room. -/
theorem Step.of_admission (h : Step s m s' es) (hadmits : es.filter Entry.isAdmission ≠ []) :
    (∃ kind frame ticket, (m = .submit kind frame ∨ m = .retry kind frame) ∧
      es = [.accepted kind ticket]) ∨
    ∃ kind frame lane old lane₁ ticket, m = .submit kind frame ∧
      s.config.pools.dropNonKeyOnOverflow = true ∧ s.lane? kind = some lane ∧
      lane.push? frame = none ∧ lane.dropNonKey? = some (old, lane₁) ∧
      es = [.evicted old, .accepted kind ticket] := by
  have hsnapshots {es : List Entry} (hes : ∀ e ∈ es, e.isSnapshot = true) :
      es.filter Entry.isAdmission = [] := by
    refine List.filter_eq_nil_iff.mpr fun e he => ?_
    rcases Entry.eq_of_isSnapshot (hes e he) with ⟨ticket, rfl⟩ | ⟨tickets, rfl⟩ <;> exact nofun
  cases h with
  | accept hm => exact .inl ⟨_, _, _, hm, rfl⟩
  | displace _ hdrop hlane hfull hold _ =>
    exact .inr ⟨_, _, _, _, _, _, rfl, hdrop, hlane, hfull, hold, rfl⟩
  | sleep | closeLast | turnIdle | collect =>
    exact absurd (hsnapshots s.isSnapshot_collectThumbnail) hadmits
  | appendTrailer | finishBare =>
    rw [List.filter_append, hsnapshots s.isSnapshot_latchThumbnail] at hadmits
    exact absurd rfl hadmits
  | retire =>
    unfold Stream.retire at hadmits
    cases haudio : s.audio <;> simp [haudio, Entry.isAdmission] at hadmits
  | @name _ _ _ _ request | @nameless _ _ _ _ request | @misnamed request _ =>
    cases request <;> exact absurd rfl hadmits
  | @videoWritten _ _ _ error | @askThumbnail _ _ _ error | @videoStray _ _ error
  | @audioWritten _ _ error | @finish _ _ _ _ error | @publish _ _ error =>
    cases error <;> exact absurd rfl hadmits
  | tellEnd => cases hfile : s.file <;> simp [hfile, Entry.isAdmission] at hadmits
  | _ => exact absurd rfl hadmits

/-- What brings a frame in is a submission. -/
theorem entrants_eq_nil (s : Stream) (hsubmit : ∀ kind frame, m ≠ .submit kind frame)
    (hretry : ∀ kind frame, m ≠ .retry kind frame) : entrants (s.move m).2 = [] := by
  have hquiet : (s.move m).2.filter Entry.isAdmission = [] := by
    by_contra hadmits
    rcases (s.step_move m).of_admission hadmits with ⟨kind, frame, -, rfl | rfl, -⟩
      | ⟨kind, frame, -, -, -, -, rfl, -⟩
    · exact hsubmit kind frame rfl
    · exact hretry kind frame rfl
    · exact hsubmit kind frame rfl
  refine List.flatMap_eq_nil_iff.mpr fun e he => ?_
  have hhidden := List.filter_eq_nil_iff.mp hquiet e he
  cases e with
  | accepted => exact absurd rfl hhidden
  | _ => rfl

/-- A move brings in what it submits with success. -/
theorem entrants_move (s : Stream) (m : Move) :
    (entrants (s.move m).2).map (fun x => (x.lane, x.ticket.frame)) = (s.pushed? m).toList := by
  have hoffered {kind : LaneKind} {frame : Frame} {mayDrop : Bool} :
      (entrants (s.submitted (s.offer kind frame mayDrop)).2).map
          (fun x => (x.lane, x.ticket.frame))
        = (if (s.offer kind frame mayDrop).isOk then some (kind, frame) else none).toList := by
    cases h : s.offer kind frame mayDrop with
    | ok r => exact entrants_of_offer h
    | error cause => rfl
  cases m with
  | submit kind frame => exact hoffered
  | retry kind frame => exact hoffered
  | _ =>
    rw [s.entrants_eq_nil (fun _ _ => Move.noConfusion) fun _ _ => Move.noConfusion]
    rfl

/-- **What comes into the lanes is what is submitted with success**, unchanged and in order. -/
theorem entrants_run (s : Stream) (ms : List Move) :
    (entrants (s.run ms).2).map (fun x => (x.lane, x.ticket.frame)) = s.pushed ms := by
  induction ms generalizing s with
  | nil => rfl
  | cons m ms ih => rw [run_cons, entrants_append, List.map_append, entrants_move, ih]; rfl

/-! ## Frames that leave unused -/

/-- A frame makes room for another when a video frame is submitted to a full lane whose settings
allow it, and it is no key frame. -/
theorem Step.of_evicted (h : Step s m s' es) (hs : s.LanesSound) {t : Ticket}
    (he : .evicted t ∈ es) :
    ∃ frame, m = .submit .video frame ∧ s.config.pools.dropNonKeyOnOverflow = true ∧
      s.video.push? frame = none ∧ t ∈ s.queue .video ∧ t.frame.isKey = false := by
  have hadmits : es.filter Entry.isAdmission ≠ [] := fun hnone =>
    List.filter_eq_nil_iff.mp hnone _ he rfl
  rcases h.of_admission hadmits with ⟨kind, frame, ticket, -, rfl⟩
    | ⟨kind, frame, lane, old, lane₁, ticket, rfl, hdrop, hlane, hfull, hold, rfl⟩
  · simp at he
  · obtain rfl : t = old := by simpa using he
    obtain ⟨hsound, hkind⟩ := hs kind lane hlane
    obtain ⟨-, hvideo, hkey, ⟨pre, post, htickets, -, -⟩, -⟩ := hsound.dropNonKey hold
    obtain rfl : kind = .video := hkind.symm.trans hvideo
    cases hlane
    refine ⟨frame, rfl, hdrop, hfull, ?_, hkey⟩
    show t ∈ s.video.tickets
    simp [htickets]

/-- Video and audio frames are thrown out at the end of a wake that began disabled. -/
theorem Step.of_discarded (h : Step s m s' es) (hs : s.Suited) {kind : LaneKind}
    {tickets : List Ticket} (he : .discarded kind tickets ∈ es) (hkind : kind ≠ .thumbnail) :
    m = .advance ∧ s.activity = .awake false .retiring ∧ s'.activity.task? = none := by
  obtain ⟨en, hact⟩ := (h.makes _ he).resolve_left hkind
  obtain rfl : en = false := by simpa [Task.suits] using hs en _ hact
  cases h with
  | retire => exact ⟨rfl, hact, s.task?_retire⟩
  | idle | start | stop | shutDown | accept | displace => simp at he
  | @misnamed request => cases request <;> simp at he
  | wake h _ | wakeInterrupted h _ _ | take h _ _ | takeInterrupted h _ _ | sleep h _
  | closeLast h _ _ | turnIdle h _ _ | split h _ _ | writeVideo h _ _ | tryOpen h _
  | writeAudio h _ | loseAudio h _ | loseDisabled h _ | askName h _ _ | askKeyFrame h _ _ _
  | loseNonKey h _ _ _ | collect h | appendTrailer h _ | finishBare h _ | name h | nameless h
  | create h _ | fail h | begin h | videoWritten h _ _ | askThumbnail h _ _ | videoStray h _
  | audioWritten h | finish h | publish h | tellEnd h | resume h => cases hact.symm.trans h
  | asked h htask => rcases htask with rfl | rfl <;> cases hact.symm.trans h

/-! ## Frames that are taken and not handed over -/

/-- How the worker gives up the frame in its hand: what it finds, and the move by which it does. -/
inductive PassesOver (s : Stream) : Move → Item → Prop
  /-- An audio frame comes while no file is open. -/
  | audio {en t} (h : s.activity = .awake en (.handling (.audio t))) (hfile : s.file = none) :
    PassesOver s .advance ⟨.audio, t⟩
  /-- A video frame comes that is no key frame, while no file is open. -/
  | nonKey {en t} (h : s.activity = .awake en (.opening t)) (hfile : s.file = none)
    (hkey : t.frame.isKey = false) : PassesOver s .advance ⟨.video, t⟩
  /-- No file is open, and the stream is disabled or the wake began so. -/
  | disabled {en t} (h : s.activity = .awake en (.opening t)) (hfile : s.file = none)
    (hen : en = false ∨ s.isEnabled = false) : PassesOver s .advance ⟨.video, t⟩
  /-- There is no name for a file. -/
  | nameless {en t generation request e} (h : s.activity = .awake en (.naming t generation)) :
    PassesOver s (.named request (.error e)) ⟨.video, t⟩
  /-- The writer cannot open the file. -/
  | failed {en t generation path cause}
    (h : s.activity = .awake en (.creating t generation path)) :
    PassesOver s (.reply (some cause)) ⟨.video, t⟩

theorem Shaped.passesOver (hs : s.Shaped) (hloses : s.loses m = true) (hx : x ∈ s.inHand) :
    s.PassesOver m x := by
  have hhand {en : Bool} {task : Task} {y : Item} (hact : s.activity = .awake en task)
      (htask : task.inHand = [y]) : x = y := by
    rw [inHand_awake hact, htask] at hx
    exact List.mem_singleton.mp hx
  unfold loses at hloses
  split at hloses
  · split at hloses
    · next hact =>
      rw [hhand hact rfl]
      exact .audio hact (Option.isNone_iff_eq_none.mp hloses)
    · next hact =>
      rw [hhand hact rfl]
      have hfile := hs.file_eq_none hact rfl
      simp only [Bool.or_eq_true, Bool.not_eq_true'] at hloses
      rcases hloses with hen | hkey
      · exact .disabled hact hfile hen
      · exact .nonKey hact hfile hkey
    · cases hloses
  · split at hloses
    · next hact =>
      rw [hhand hact rfl]
      exact .nameless hact
    · cases hloses
  · split at hloses
    · next hact =>
      rw [hhand hact rfl]
      exact .failed hact
    · cases hloses
  · cases hloses

/-- **A frame in hand stays there, is handed over, or is given up for a reason.** -/
theorem Step.hand_cases (h : Step s m s' es) (hs : s.Shaped) (hx : x ∈ s.inHand ++ takenItems es) :
    x ∈ handedItems es ∨ x ∈ s'.inHand ∨ s.PassesOver m x := by
  rcases h.hand with hkeeps | ⟨hloses, -, htaken, -⟩
  · rw [← hkeeps] at hx
    exact (List.mem_append.mp hx).imp_right .inl
  · rw [htaken, List.append_nil] at hx
    exact .inr (.inr (hs.passesOver hloses hx))

/-- In a run, every frame that is taken is handed over, or is still in hand, or was given up. -/
theorem Shaped.hand_run (hs : s.Shaped) (ms : List Move)
    (hx : x ∈ s.inHand ++ takenItems (s.run ms).2) :
    x ∈ handedItems (s.run ms).2 ∨ x ∈ (s.run ms).1.inHand ∨
      ∃ before m later, ms = before ++ m :: later ∧ (s.run before).1.PassesOver m x := by
  induction ms generalizing s with
  | nil =>
    refine .inr (.inl ?_)
    simpa [takenItems] using hx
  | cons m ms ih =>
    have hstep := s.step_move m
    rw [run_cons, takenItems_append, ← List.append_assoc] at hx
    rw [run_cons, handedItems_append]
    have hlater (hx : x ∈ (s.move m).1.inHand ++ takenItems ((s.move m).1.run ms).2) :
        x ∈ handedItems (s.move m).2 ++ handedItems ((s.move m).1.run ms).2 ∨
          x ∈ ((s.move m).1.run ms).1.inHand ∨
          ∃ before m' later, m :: ms = before ++ m' :: later ∧
            (s.run before).1.PassesOver m' x := by
      rcases ih (hstep.shaped hs) hx with h | h | ⟨before, m', later, rfl, h⟩
      · exact .inl (List.mem_append_right _ h)
      · exact .inr (.inl h)
      · exact .inr (.inr ⟨m :: before, m', later, rfl, h⟩)
    rcases List.mem_append.mp hx with hx | hx
    · rcases hstep.hand_cases hs hx with h | h | h
      · exact .inl (List.mem_append_left _ h)
      · exact hlater (List.mem_append_left _ h)
      · exact .inr (.inr ⟨[], m, ms, rfl, h⟩)
    · exact hlater (List.mem_append_right _ hx)

/-! ## The account of a stream -/

/-- The account of all frames of a stream in a run: those that came in, where each of them is, what
brought it there, and how many were written. -/
structure Accounted (s : Stream) (ms : List Move) : Prop where
  /-- What came in is what was submitted with success, unchanged and in order. -/
  pushed : (entrants (s.run ms).2).map (fun x => (x.lane, x.ticket.frame)) = s.pushed ms
  /-- No frame came in twice. -/
  distinct : (entrants (s.run ms).2).Nodup
  fate : ∀ x ∈ acceptedItems (s.run ms).2, ∃! fate, Fate.Holds (s.run ms).1 (s.run ms).2 x fate
  evicted : ∀ t, .evicted t ∈ (s.run ms).2 → ∃ before frame later,
    ms = before ++ .submit .video frame :: later ∧
      .evicted t ∈ ((s.run before).1.move (.submit .video frame)).2 ∧
      .accepted .video t ∈ (s.run before).2 ∧ (s.run before).1.video.push? frame = none ∧
      s.config.pools.dropNonKeyOnOverflow = true ∧ t.frame.isKey = false
  discarded : ∀ kind tickets, .discarded kind tickets ∈ (s.run ms).2 → kind ≠ .thumbnail →
    ∃ before later, ms = before ++ .advance :: later ∧
      .discarded kind tickets ∈ ((s.run before).1.move .advance).2 ∧
      (s.run before).1.activity = .awake false .retiring ∧
      ((s.run before).1.move .advance).1.activity.task? = none
  passedOver : ∀ x ∈ takenItems (s.run ms).2, x ∉ handedItems (s.run ms).2 →
    x ∈ (s.run ms).1.inHand ∨
      ∃ before m later, ms = before ++ m :: later ∧ (s.run before).1.PassesOver m x
  /-- As many frames count as written as calls to write one succeeded. -/
  written : (s.run ms).1.framesWritten = (s.videoReplies ms).count true
  /-- The calls that were made have returned, but for the one that the worker waits for. -/
  called : (videos (s.run ms).2).length
    = (s.videoReplies ms).length + (s.run ms).1.writing?.toList.length

/-- A frame that waits was taken in before. -/
theorem Fresh.accepted_of_queued (hs : s.Fresh) {ms : List Move} {kind : LaneKind} {t : Ticket}
    (ht : t ∈ (s.run ms).1.queue kind) : .accepted kind t ∈ (s.run ms).2 := by
  have hcount : ((s.run ms).1.queue kind).count t + _ + _ + _ = _ := hs.conserves ms ⟨kind, t⟩
  have hpos := List.count_pos_iff.mpr ht
  have hin : 0 < (entrants (s.run ms).2).count ⟨kind, t⟩ := by omega
  exact mem_entrants.mp (List.count_pos_iff.mp hin)

/-- **All frames of a stream are accounted for.** -/
theorem Fresh.accounted (hs : s.Fresh) (ms : List Move) : s.Accounted ms where
  pushed := s.entrants_run ms
  distinct := hs.nodup_entrants ms
  fate x hx := hs.fate ms hx
  evicted t ht := by
    obtain ⟨pre, post, hes⟩ := List.append_of_mem ht
    obtain ⟨before, m, later, es₁, es₂, rfl, hmade, -⟩ := exists_move_of_entry hes
    have hmem : .evicted t ∈ ((s.run before).1.move m).2 := by rw [hmade]; simp
    obtain ⟨frame, rfl, hdrop, hfull, hqueued, hkey⟩ :=
      ((s.run before).1.step_move m).of_evicted (buffers_run hs.lanes before).1 hmem
    rw [(s.same_run before).config] at hdrop
    exact ⟨before, frame, later, rfl, hmem, hs.accepted_of_queued hqueued, hfull, hdrop, hkey⟩
  discarded kind tickets ht hkind := by
    obtain ⟨pre, post, hes⟩ := List.append_of_mem ht
    obtain ⟨before, m, later, es₁, es₂, rfl, hmade, -⟩ := exists_move_of_entry hes
    have hmem : .discarded kind tickets ∈ ((s.run before).1.move m).2 := by rw [hmade]; simp
    obtain ⟨rfl, hact, hrest⟩ := ((s.run before).1.step_move m).of_discarded
      (suited_run hs.suited before) hmem hkind
    exact ⟨before, later, rfl, hmem, hact, hrest⟩
  passedOver x hx hmissed :=
    (hs.shaped.hand_run ms (List.mem_append_right _ hx)).resolve_left hmissed
  written := by
    rw [(videoReplies_run hs.shaped ms).1, hs.unwritten, Nat.zero_add]
  called := by
    have hcalled := (videoReplies_run hs.shaped ms).2
    rwa [writing?_resting (s := s) (by rw [hs.asleep]; rfl)] at hcalled

end Stream

end CameraRecorder
