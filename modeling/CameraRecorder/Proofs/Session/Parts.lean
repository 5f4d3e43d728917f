import CameraRecorder.Proofs.NameCache
import CameraRecorder.Proofs.Session.Runs
import CameraRecorder.Proofs.Stream.Nameless
import CameraRecorder.Proofs.Stream.Shape

/-!
# What is done to one stream of a session

Whatever is done with a session does one thing to each of its streams (`Session.Does`): what is
addressed to a stream does nothing to the others, and what is meant for all does the same to each.
Who is in the session, with which settings and writers, does not change.
-/

namespace CameraRecorder

/-- Nothing is done with a stream. -/
def Stream.rest (s : Stream) : Stream × List Entry := (s, [])

namespace Session

variable {s s' s'' : Session} {es es' : Entries} {i b : Nat} {stream stream' : Stream}
  {act : Stream → Stream × List Entry}

/-- Who is in a session, with which settings and writers. -/
abbrev Cast := List (StreamHandle × StreamConfig × Writer)

def cast (s : Session) : Cast :=
  s.tracks.map fun track => (track.stream.handle, track.stream.config, track.writer)

/-- The first stream that reads a channel. -/
def Cast.indexOf? (cast : Cast) (channel : UInt32) : Option Nat :=
  cast.findIdx? (·.1.channelId = channel)

theorem indexOf?_eq (s : Session) (channel : UInt32) :
    s.indexOf? channel = s.cast.indexOf? channel := by
  rw [Cast.indexOf?, cast, List.findIdx?_map]
  rfl

/-- When no two streams read one channel, each is found by its own. -/
theorem Cast.indexOf?_eq_some {cast : Cast} (h : (cast.map (·.1.channelId)).Nodup)
    {member : StreamHandle × StreamConfig × Writer} (hi : cast[i]? = some member) :
    cast.indexOf? member.1.channelId = some i := by
  obtain ⟨hlt, rfl⟩ := List.getElem?_eq_some_iff.mp hi
  refine List.findIdx?_eq_some_iff_getElem.mpr ⟨hlt, by simp, fun j hj => ?_⟩
  have hne := (List.nodup_iff_getElem?_ne_getElem?.mp h) j i hj (by simpa using hlt)
  have hlt' : j < cast.length := Nat.lt_trans hj hlt
  simpa [hlt, hlt'] using hne

/-- A stream reads one channel. -/
theorem Cast.indexOf?_ne {cast : Cast} {channel channel' : UInt32}
    (h : cast.indexOf? channel = some i) (hne : channel' ≠ channel) :
    cast.indexOf? channel' ≠ some i := by
  intro h'
  obtain ⟨hlt, hreads, -⟩ := List.findIdx?_eq_some_iff_getElem.mp h
  obtain ⟨hlt', hreads', -⟩ := List.findIdx?_eq_some_iff_getElem.mp h'
  exact hne ((of_decide_eq_true hreads').symm.trans (of_decide_eq_true hreads))

/-- From one session to another `act` is done with the stream of a number. -/
structure Does (s : Session) (i : Nat) (act : Stream → Stream × List Entry) (es : Entries)
    (s' : Session) : Prop where
  cast : s'.cast = s.cast
  cameraId : s'.names.cameraId = s.names.cameraId
  slots : s'.names.slots.length = s.names.slots.length
  stream : s'.stream? i = (s.stream? i).map fun stream => (act stream).1
  told : ∀ stream, s.stream? i = some stream → entriesOf es i = (act stream).2

theorem Does.refl (s : Session) (i : Nat) : s.Does i Stream.rest [] s where
  cast := rfl
  cameraId := rfl
  slots := rfl
  stream := by simp [Stream.rest]
  told _ _ := rfl

theorem Does.trans_rest (h : s.Does i act es s') (h' : s'.Does i Stream.rest es' s'') :
    s.Does i act (es ++ es') s'' where
  cast := h'.cast.trans h.cast
  cameraId := h'.cameraId.trans h.cameraId
  slots := h'.slots.trans h.slots
  stream := by simp [h'.stream, h.stream, Stream.rest, Function.comp_def]
  told stream hi := by
    have hi' : s'.stream? i = some (act stream).1 := by rw [h.stream, hi]; rfl
    rw [entriesOf_append, h.told stream hi, h'.told _ hi']
    exact List.append_nil _

theorem Does.rest_trans (h : s.Does i Stream.rest es s') (h' : s'.Does i act es' s'') :
    s.Does i act (es ++ es') s'' where
  cast := h'.cast.trans h.cast
  cameraId := h'.cameraId.trans h.cameraId
  slots := h'.slots.trans h.slots
  stream := by simp [h'.stream, h.stream, Stream.rest]
  told stream hi := by
    have hi' : s'.stream? i = some stream := by rw [h.stream, hi]; rfl
    rw [entriesOf_append, h.told stream hi, h'.told _ hi']
    rfl

/-- What is done is seen from the stream that is there. -/
theorem Does.congr {act' : Stream → Stream × List Entry} (h : s.Does i act es s')
    (hact : ∀ stream, s.stream? i = some stream → act stream = act' stream) :
    s.Does i act' es s' where
  cast := h.cast
  cameraId := h.cameraId
  slots := h.slots
  stream := by
    rw [h.stream]
    cases hi : s.stream? i with
    | none => rfl
    | some stream => simp [hact stream hi]
  told stream hi := (h.told stream hi).trans (congrArg Prod.snd (hact stream hi))

/-! ## One stream -/

theorem cast_setStream (hi : s.stream? i = some stream) (hsame : stream.Same stream') :
    (s.setStream i stream').cast = s.cast := by
  obtain ⟨track, htrack, rfl⟩ := Option.map_eq_some_iff.mp hi
  obtain ⟨hlt, rfl⟩ := List.getElem?_eq_some_iff.mp htrack
  rw [setStream_eq htrack]
  have hlt' : i < s.cast.length := by simpa [cast] using hlt
  have hself : (s.tracks[i].stream.handle, s.tracks[i].stream.config, s.tracks[i].writer)
      = s.cast[i] := by simp [cast]
  simp only [cast, List.map_set, hsame.handle, hsame.config, hself]
  exact List.set_getElem_self _

/-- A stream of a number is changed as `act` does it. -/
theorem does_setStream (hi : s.stream? i = some stream) {es : List Entry}
    (hact : act stream = (stream', es)) (hsame : stream.Same stream') (b : Nat) :
    s.Does b (if i = b then act else Stream.rest) (es.map (i, ·)) (s.setStream i stream') := by
  refine ⟨cast_setStream hi hsame, rfl, rfl, ?_, fun stream₁ hb => ?_⟩
  · rw [stream?_setStream]
    by_cases hib : i = b
    · subst hib
      simp [hi, hact]
    · simp [hib, Stream.rest]
  · by_cases hib : i = b
    · subst hib
      cases hi.symm.trans hb
      rw [entriesOf_self, if_pos rfl, hact]
    · rw [entriesOf_other _ hib, if_neg hib]
      rfl

/-- A stream of a number, if there is one, stays as `act` leaves it. -/
theorem does_nothing (hact : ∀ stream, s.stream? i = some stream → act stream = (stream, []))
    (b : Nat) : s.Does b (if i = b then act else Stream.rest) [] s := by
  refine (Does.refl s b).congr fun stream hb => ?_
  by_cases hib : i = b
  · subst hib
    rw [if_pos rfl, hact stream hb]
    rfl
  · rw [if_neg hib]

theorem does_onStream (s : Session) (i b : Nat)
    (hsame : ∀ stream : Stream, stream.Same (act stream).1) :
    s.Does b (if i = b then act else Stream.rest) (s.onStream i act).2 (s.onStream i act).1 := by
  unfold onStream
  cases hi : s.stream? i with
  | none => exact does_nothing (fun stream hi' => by cases hi.symm.trans hi') b
  | some stream => exact does_setStream hi rfl (hsame stream) b

/-! ## All streams -/

/-- What is done with the streams one after the other. -/
theorem does_foldl {σ : Type} (made : σ → Session × Entries) {f : σ → Nat → σ} {x : σ}
    (hstart : made x = (s, []))
    (hstep : ∀ y i, ∃ es,
      (made y).1.Does b (if i = b then act else Stream.rest) es (made (f y i)).1 ∧
      (made (f y i)).2 = (made y).2 ++ es) (n : Nat) :
    s.Does b (if b < n then act else Stream.rest) (made ((List.range n).foldl f x)).2
      (made ((List.range n).foldl f x)).1 := by
  induction n with
  | zero =>
    rw [if_neg (Nat.not_lt_zero b), List.range_zero, List.foldl_nil, hstart]
    exact .refl s b
  | succ n ih =>
    obtain ⟨es, hdoes, htold⟩ := hstep ((List.range n).foldl f x) n
    rw [List.range_succ, List.foldl_append, List.foldl_cons, List.foldl_nil, htold]
    rcases Nat.lt_trichotomy b n with hlt | rfl | hgt
    · rw [if_neg (Nat.ne_of_gt hlt)] at hdoes
      rw [if_pos hlt] at ih
      rw [if_pos (Nat.lt_succ_of_lt hlt)]
      exact ih.trans_rest hdoes
    · rw [if_pos rfl] at hdoes
      rw [if_neg (Nat.lt_irrefl b)] at ih
      rw [if_pos (Nat.lt_succ_self b)]
      exact ih.rest_trans hdoes
    · rw [if_neg (Nat.ne_of_lt hgt)] at hdoes
      rw [if_neg (Nat.lt_asymm hgt)] at ih
      rw [if_neg (by omega)]
      exact ih.trans_rest hdoes

/-- When all streams had their turn, so had each. -/
theorem Does.all (h : s.Does b (if b < s.tracks.length then act else Stream.rest) es s') :
    s.Does b act es s' := by
  refine h.congr fun stream hb => ?_
  obtain ⟨track, htrack, -⟩ := Option.map_eq_some_iff.mp hb
  rw [if_pos (List.getElem?_eq_some_iff.mp htrack).1]

theorem does_onStreams (s : Session) (b : Nat)
    (hsame : ∀ stream : Stream, stream.Same (act stream).1) :
    s.Does b act (s.onStreams act).2 (s.onStreams act).1 := by
  refine Does.all (does_foldl (fun x => x) rfl (fun y i => ?_) _)
  exact ⟨_, does_onStream y.1 i b hsame, rfl⟩

theorem does_move_onStreams (s : Session) (b : Nat) (m : Stream.Move) :
    s.Does b (·.move m) (s.onStreams (·.move m)).2 (s.onStreams (·.move m)).1 :=
  does_onStreams s b fun stream => (stream.step_move m).same

/-! ## Frames -/

/-- The session after a submission, which changes nothing if the frame is refused. -/
def submitted (s : Session) (result : Except SubmitError (Session × Entries)) : Session × Entries :=
  match result with
  | .ok r => r
  | .error _ => (s, [])

theorem does_submitTo {submit : Stream → Except SubmitError (Stream × List Entry)}
    {m : Stream.Move}
    (hmove : ∀ stream : Stream, stream.submitted (submit stream) = stream.move m) (s : Session)
    (i b : Nat) :
    s.Does b (if i = b then (·.move m) else Stream.rest) (s.submitted (s.submitTo i submit)).2
      (s.submitted (s.submitTo i submit)).1 := by
  unfold submitTo
  cases hi : s.stream? i with
  | none => exact does_nothing (fun stream hi' => by cases hi.symm.trans hi') b
  | some stream =>
    have hmade := hmove stream
    cases hsubmit : submit stream with
    | error cause =>
      rw [hsubmit] at hmade
      simp only [hsubmit]
      refine does_nothing (fun stream' hi' => ?_) b
      cases hi.symm.trans hi'
      exact hmade.symm
    | ok r =>
      rw [hsubmit] at hmade
      have hmade : r = stream.move m := hmade
      simp only [hsubmit]
      exact does_setStream hi hmade.symm (hmade ▸ (stream.step_move m).same) b

/-- A stream's turn when a frame is submitted to all: what the others before it have made of the
session, and how many of them have taken the frame. -/
def broadcastTo (kind : LaneKind) (frame : Frame) (r : Session × Entries × Nat) (i : Nat) :
    Session × Entries × Nat :=
  match r.1.submitTo i (·.submit kind frame) with
  | .ok (s, more) => (s, r.2.1 ++ more, r.2.2 + 1)
  | .error _ => r

theorem broadcast_eq (s : Session) (kind : LaneKind) (frame : Frame) :
    s.broadcast kind frame
      = (List.range s.tracks.length).foldl (broadcastTo kind frame) (s, [], 0) := rfl

/-- The same for the first streams of a session. -/
theorem does_broadcast_upTo (s : Session) (b : Nat) (kind : LaneKind) (frame : Frame) (n : Nat) :
    let r := (List.range n).foldl (broadcastTo kind frame) (s, [], 0)
    s.Does b (if b < n then (·.move (.submit kind frame)) else Stream.rest) r.2.1 r.1 := by
  refine does_foldl (fun x : Session × Entries × Nat => (x.1, x.2.1)) rfl
    (fun ⟨s₁, es, count⟩ i => ?_) n
  have hdoes := does_submitTo (m := .submit kind frame) (fun _ => rfl) s₁ i b
  unfold broadcastTo
  cases hsubmit : s₁.submitTo i (·.submit kind frame) with
  | ok r =>
    rw [hsubmit] at hdoes
    exact ⟨r.2, by simpa only [hsubmit, submitted] using hdoes, rfl⟩
  | error cause =>
    rw [hsubmit] at hdoes
    exact ⟨[], by simpa only [hsubmit, submitted] using hdoes, (List.append_nil _).symm⟩

theorem does_broadcast (s : Session) (b : Nat) (kind : LaneKind) (frame : Frame) :
    s.Does b (·.move (.submit kind frame)) (s.broadcast kind frame).2.1
      (s.broadcast kind frame).1 :=
  Does.all (does_broadcast_upTo s b kind frame s.tracks.length)

/-! ## Calls -/

/-- Every writer of a session is silent. -/
def Silent (s : Session) : Prop := ∀ member ∈ s.cast, member.2.2 = .silent

theorem Silent.writer (h : s.Silent) {track : Track} (hi : s.tracks[i]? = some track) :
    track.writer = .silent :=
  h _ (List.mem_map_of_mem (List.mem_of_getElem? hi))

theorem Does.silent (h : s.Does b act es s') (hsilent : s.Silent) : s'.Silent := by
  unfold Silent
  rw [h.cast]
  exact hsilent

/-- A call for a silent writer is carried out without an error, and the writer stays silent. -/
theorem callOut_silent {track : Track} (h : track.writer = .silent) (task : Task) (disk : Disk) :
    (callOut track task disk).1 = .silent ∧ (callOut track task disk).2.2 = none := by
  cases task with
  | creating | writingVideo | writingAudio | trailing | finishing =>
    simp only [callOut, h]
    exact ⟨rfl, rfl⟩
  | publishing next =>
    refine ⟨?_, callOut_error rfl⟩
    unfold callOut
    cases track.stream.file with
    | none => exact h
    | some file => simp only; split <;> exact h
  | _ => exact ⟨h, rfl⟩

theorem Does.withDisk (h : s.Does b act es s') (disk : Disk) :
    s.Does b act es { s' with disk } :=
  ⟨h.cast, h.cameraId, h.slots, h.stream, h.told⟩

/-- With silent writers, a worker is answered whether its call was faulty, and no more. -/
theorem does_replyTo (hsilent : s.Silent) (i b : Nat) (faulty : Bool) :
    s.Does b (if i = b then (·.move (.reply (if faulty then some .io else none))) else Stream.rest)
      (s.replyTo i faulty).2 (s.replyTo i faulty).1 := by
  cases hi : s.tracks[i]? with
  | none =>
    simp only [replyTo, hi]
    exact does_nothing (fun stream hi' => by simp [stream?, hi] at hi') b
  | some track =>
    have hstream : s.stream? i = some track.stream := by simp [stream?, hi]
    have hsame (m : Stream.Move) : track.stream.Same (track.stream.move m).1 :=
      (track.stream.step_move m).same
    cases hact : track.stream.activity with
    | asleep | stopped | crashed =>
      simp only [replyTo, hi, hact, Activity.task?]
      refine does_nothing (fun stream hi' => ?_) b
      cases hstream.symm.trans hi'
      simp [Stream.move, Stream.reply, hact]
    | awake en task =>
      have htask : track.stream.activity.task? = some task := by rw [hact]; rfl
      cases hfaulty : faulty && reachesWriter task with
      | true =>
        obtain ⟨rfl, hreaches⟩ := Bool.and_eq_true_iff.mp hfaulty
        have hmove : track.stream.move (.reply (some .io)) = track.stream.reply (some .io) :=
          (reply_eq_move htask (by simp [hreaches])).symm
        simp only [replyTo, hi, htask, hfaulty, if_true, onStream, hstream, ← hmove]
        exact does_setStream hstream rfl (hsame _) b
      | false =>
        -- a fault of a call that does not go to the writer is none
        have hmove : track.stream.move (.reply (if faulty then some .io else none))
            = track.stream.reply none := by
          cases faulty with
          | false => exact (reply_eq_move htask fun _ => rfl).symm
          | true =>
            have hreaches : reachesWriter task = false := by simpa using hfaulty
            simp [Stream.move, Stream.awaitsWriter, htask, hreaches]
        obtain ⟨hwriter, herror⟩ := callOut_silent (hsilent.writer hi) task s.disk
        rw [replyTo_eq hi hact hfaulty, hwriter, herror, ← hsilent.writer hi]
        have hsame' : track.stream.Same (track.stream.reply none).1 := by
          rw [← hmove]
          exact hsame _
        have hdoes : s.Does b
            (if i = b then (·.move (.reply (if faulty then some .io else none))) else Stream.rest)
            _ _ := does_setStream hstream hmove hsame' b
        rw [setStream_eq hi] at hdoes
        exact hdoes.withDisk _

theorem closeWriter_silent (h : s.Silent) (i : Nat) : s.closeWriter i = s := by
  unfold closeWriter
  cases hi : s.tracks[i]? with
  | none => rfl
  | some track =>
    obtain ⟨hlt, rfl⟩ := List.getElem?_eq_some_iff.mp hi
    have hwriter : ({ s.tracks[i] with writer := .silent } : Track) = s.tracks[i] := by
      rw [← h.writer hi]
    simp only [h.writer hi, Writer.close, modify_eq_set hi, hwriter, List.set_getElem_self]

theorem does_crash (hsilent : s.Silent) (i b : Nat) :
    s.Does b (if i = b then fun stream => (stream.crash, []) else Stream.rest) [] (s.crash i) := by
  have hcrash : s.Does b (if i = b then fun stream => (stream.crash, []) else Stream.rest) _ _ :=
    does_onStream s i b fun _ => ⟨rfl, rfl, rfl⟩
  have hnothing : (s.onStream i fun stream => (stream.crash, [])).2 = [] := by
    unfold onStream
    cases s.stream? i <;> rfl
  rw [crash, closeWriter_silent (hcrash.silent hsilent)]
  rwa [hnothing] at hcrash

/-! ## Names -/

/-- Whoever gives batches of names gives a full one whenever it is asked. -/
def Supplies {σ : Type} (request : UInt32 → Nat → σ → Except NameError (List Path) × σ)
    (cameraId : UInt32) (count : Nat) : Nat → σ → Prop
  | 0, _ => True
  | n + 1, source => ∃ paths, (request cameraId count source).1 = .ok paths ∧
    count ≤ paths.length ∧ Supplies request cameraId count n (request cameraId count source).2

section Names

variable {σ : Type} {request : UInt32 → Nat → σ → Except NameError (List Path) × σ} {source : σ}
  {cameraId : UInt32} {count : Nat}

theorem exists_batch (h : ∀ n, Supplies request cameraId count n source) :
    ∃ paths, (request cameraId count source).1 = .ok paths ∧ count ≤ paths.length ∧
      ∀ n, Supplies request cameraId count n (request cameraId count source).2 := by
  obtain ⟨paths, hmade, hfull, -⟩ := h 1
  refine ⟨paths, hmade, hfull, fun n => ?_⟩
  obtain ⟨-, -, -, hlater⟩ := h (n + 1)
  exact hlater

/-- From full batches every stream is given a name. -/
theorem next_of_supplies {c : NameCache}
    (h : ∀ n, Supplies request c.cameraId c.slots.length n source) (hi : i < c.slots.length) :
    ∃ p c' source', c.next request i source = (.ok p, c', source') ∧ c'.cameraId = c.cameraId ∧
      c'.slots.length = c.slots.length ∧
      ∀ n, Supplies request c.cameraId c.slots.length n source' := by
  cases hslot : c.slots[i] with
  | some p =>
    have hkept : c.slots[i]? = some (some p) := List.getElem?_eq_some_iff.mpr ⟨hi, hslot⟩
    refine ⟨p, { c with slots := c.slots.set i none }, source, ?_, rfl, List.length_set, h⟩
    rw [NameCache.next_eq_serve, NameCache.serve_of_kept hkept]
  | none =>
    have hnone : c.slots[i]? = some none := List.getElem?_eq_some_iff.mpr ⟨hi, hslot⟩
    obtain ⟨paths, hbatch, hfull, hlater⟩ := exists_batch h
    generalize hmade : request c.cameraId c.slots.length source = made at hbatch hlater
    obtain ⟨batch, source'⟩ := made
    obtain rfl : batch = .ok paths := hbatch
    have hlt := Nat.lt_of_lt_of_le hi hfull
    have hgood := NameCache.failure_eq_none (Nat.zero_lt_of_lt hi) hfull
    refine ⟨paths[i], { c with slots := ((paths.take c.slots.length).map some).set i none },
      source', ?_, rfl, by simp [Nat.min_eq_left hfull], hlater⟩
    rw [NameCache.next_eq_serve,
      NameCache.serve_of_fetched hnone hmade hgood (List.getElem?_eq_getElem hlt)]

/-- A call for a name is answered with one. -/
theorem does_nameFile (h : ∀ n, Supplies request s.names.cameraId s.names.slots.length n source)
    (hi : i < s.names.slots.length) (b : Nat) :
    let made := s.nameFile request i source
    (∃ asked p, s.Does b (if i = b then (·.move (.named asked (.ok p))) else Stream.rest) made.2.1
      made.1) ∧ ∀ n, Supplies request s.names.cameraId s.names.slots.length n made.2.2 := by
  obtain ⟨p, names, source', hnext, hcameraId, hslots, hlater⟩ := next_of_supplies h hi
  simp only [nameFile, hnext]
  refine ⟨?_, hlater⟩
  let asked :=
    if (s.names.take? i).isSome then none else some (s.names.cameraId, s.names.slots.length)
  have hasked : (if (s.names.take? i).isSome then []
      else [(i, Entry.names s.names.cameraId s.names.slots.length)])
      = (asked.map fun r => Entry.names r.1 r.2).toList.map (i, ·) := by
    by_cases h : (s.names.take? i).isSome = true <;> simp [asked, h]
  rw [hasked]
  have hnamed : ({ s with names } : Session).Does b
      (if i = b then (·.named (.ok p)) else Stream.rest) _ _ :=
    does_onStream { s with names } i b fun stream => (stream.step_move (.named none (.ok p))).same
  refine ⟨asked, p, hnamed.cast, hnamed.cameraId.trans hcameraId, hnamed.slots.trans hslots, ?_,
    fun stream hb => ?_⟩
  · refine hnamed.stream.trans ?_
    by_cases hib : i = b
    · rw [if_pos hib, if_pos hib]
      rfl
    · rw [if_neg hib, if_neg hib]
      rfl
  · have htold := hnamed.told stream hb
    rw [entriesOf_append, htold]
    by_cases hib : i = b
    · subst hib
      rw [entriesOf_self, if_pos rfl, if_pos rfl]
      rfl
    · rw [entriesOf_other _ hib, if_neg hib, if_neg hib]
      rfl

end Names

end Session

end CameraRecorder
