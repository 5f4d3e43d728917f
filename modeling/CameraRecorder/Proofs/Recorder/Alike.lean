import CameraRecorder.Proofs.Recorder.Runs
import CameraRecorder.Proofs.Session.Parts

/-!
# Recorders that are alike for one stream

The streams of a session share the names of files, the camera and the application, and some frames
are meant for all of them. Still, with silent writers, an application that does nothing during
calls, and names for every file, nothing interferes at a recorder (`Recorder.Quiet`).

Two such recorders are alike for one stream (`Recorder.Alike`) when the same is to be seen of it,
names of files aside. They stay alike when the same is done with the stream in both, and when
anything is done with the others: calls are answered alike, workers run alike, and actions do the
same.
-/

namespace CameraRecorder

/-- What is to be seen of one stream of a recorder, names of files aside: the stream, what is told
of it, how many calls of each kind it made, and which calls of it fail. -/
structure View where
  stream : Stream
  told : List Entry
  calls : Point → Nat
  failures : List Failure

/-- What is to be seen after something was done with the stream. -/
def View.does (v : View) (act : Stream → Stream × List Entry) : View :=
  { v with
    stream := (Stream.namelessly (act v.stream)).1
    told := v.told ++ (Stream.namelessly (act v.stream)).2 }

/-- What is to be seen after the stream has made a call. -/
def View.counted (v : View) (point : Point) : View :=
  { v with calls := fun kind => if point = kind then v.calls kind + 1 else v.calls kind }

namespace Stream

theorem respects_rest : Respects rest := fun s => s.namelessly_idle []

theorem respects_ite {act : Stream → Stream × List Entry} (h : Respects act) (c : Prop)
    [Decidable c] : Respects (if c then act else rest) := by
  split
  · exact h
  · exact respects_rest

/-- What becomes of a stream whose call is answered, which may be scripted to fail. -/
def outcome : Option Failure → Stream → Stream × List Entry
  | none => (·.move (.reply none))
  | some failure => fun stream =>
    if failure.isCrash then (stream.crash, []) else stream.move (.reply (some .io))

theorem respects_outcome (failure : Option Failure) : Respects (outcome failure) := by
  intro stream
  cases failure with
  | none => exact respects_move _ stream
  | some failure =>
    cases hcrash : failure.isCrash with
    | true =>
      simp only [outcome, hcrash, if_true]
      exact stream.crash.namelessly_idle []
    | false =>
      simp only [outcome, hcrash, Bool.false_eq_true, if_false]
      exact respects_move _ stream

/-- What is next for a stream whose worker is awake: the call that it makes, if that is counted, and
what becomes of the stream. The name of a file is left open. -/
def next? (s : Stream) (striking? : Point → Option Failure) :
    Option (Option Point × (Stream → Stream × List Entry)) :=
  if s.advance?.isSome then some (none, (·.move .advance))
  else match s.activity.task? with
    | none => none
    | some (.naming ..) => some (none, (·.move (.named none (.ok ⟨[]⟩))))
    | some task =>
      match task.point? with
      | some point => some (some point, outcome (striking? point))
      | none => some (none, (·.move (.reply none)))

theorem next?_nameless (s : Stream) (striking? : Point → Option Failure) :
    s.nameless.next? striking? = s.next? striking? := by
  obtain ⟨_, _, _, _, _, _, _, _, _, _, activity, _, _⟩ := s
  cases activity with
  | awake enabled task => cases task <;> rfl
  | _ => rfl

end Stream

namespace Recorder

variable {r r' r₁ r₂ r₁' r₂' : Recorder} {i b : Nat} {stream : Stream}
  {act : Stream → Stream × List Entry} {change : Session × Session.Entries} {cast : Session.Cast}

/-- What is to be seen of the stream of a number, if there is one. -/
def view (r : Recorder) (b : Nat) : Option View :=
  (r.session.stream? b).map fun stream => {
    stream := stream.nameless
    told := (r.told b).filterMap Entry.nameless?
    calls := r.host.callsOf b
    failures := r.host.failures.filter (·.stream = b) }

theorem view_does_rest (r : Recorder) (b : Nat) :
    (r.view b).map (·.does Stream.rest) = r.view b := by
  unfold view
  rw [Option.map_map]
  congr 1
  funext stream
  simp [View.does, Stream.rest, Stream.namelessly]

theorem view_update (h : r.session.Does b act change.2 change.1) (hact : Stream.Respects act) :
    (r.update change).view b = (r.view b).map (·.does act) := by
  have hstream : (r.update change).session.stream? b
      = (r.session.stream? b).map fun stream => (act stream).1 := h.stream
  cases hb : r.session.stream? b with
  | none => simp [view, hstream, hb]
  | some stream =>
    have htold : (r.update change).told b = r.told b ++ (act stream).2 := by
      rw [← h.told stream hb]
      exact told_note ..
    have hmade := hact stream
    simp only [view, hstream, hb, htold, Option.map_some, View.does, ← hmade]
    rw [List.filterMap_append]
    rfl

/-! ## Recorders at which nothing interferes -/

/-- A session of a known cast, at which nothing interferes: the writers are silent, no two streams
read one channel, there is a name for every file, and neither the camera nor the application does
anything during a call. -/
structure Quiet (r : Recorder) (cast : Session.Cast) : Prop where
  members : r.session.cast = cast
  silent : r.session.Silent
  channels : (cast.map (·.1.channelId)).Nodup
  slots : r.session.names.slots.length = cast.length
  names : ∀ n, Session.Supplies NameSource.request r.session.names.cameraId
    r.session.names.slots.length n r.host.names
  camera : r.host.camera = none
  answers : r.host.answers = 0
  hooks : r.host.hooks = []
  selfDriven : r.isSelfDriven = false

/-- From one recorder to another `act` is done with the stream of a number, as far as can be seen,
and nothing comes to interfere. -/
structure Does (r : Recorder) (cast : Session.Cast) (b : Nat) (act : Stream → Stream × List Entry)
    (r' : Recorder) : Prop where
  quiet : r'.Quiet cast
  live : r'.isLive = r.isLive
  view : r'.view b = (r.view b).map (·.does act)

theorem Quiet.does_update (h : r.Quiet cast) (hdoes : r.session.Does b act change.2 change.1)
    (hact : Stream.Respects act) : r.Does cast b act (r.update change) where
  quiet := {
    members := hdoes.cast.trans h.members
    silent := hdoes.silent h.silent
    channels := h.channels
    slots := hdoes.slots.trans h.slots
    names := by
      show ∀ n, Session.Supplies NameSource.request change.1.names.cameraId
        change.1.names.slots.length n r.host.names
      rw [hdoes.slots, hdoes.cameraId]
      exact h.names
    camera := h.camera
    answers := h.answers
    hooks := h.hooks
    selfDriven := h.selfDriven }
  live := rfl
  view := view_update hdoes hact

theorem Quiet.does_rest (h : r.Quiet cast) (b : Nat) : r.Does cast b Stream.rest r :=
  ⟨h, rfl, (r.view_does_rest b).symm⟩

/-- Two recorders are alike for one stream: the same is to be seen of it, and the same streams are
in their sessions. -/
structure Alike (cast : Session.Cast) (b : Nat) (r₁ r₂ : Recorder) : Prop where
  left : r₁.Quiet cast
  right : r₂.Quiet cast
  live : r₁.isLive = r₂.isLive
  view : r₁.view b = r₂.view b

theorem Quiet.alike (h : r.Quiet cast) (b : Nat) : Alike cast b r r := ⟨h, h, rfl, rfl⟩

theorem Alike.symm (h : Alike cast b r₁ r₂) : Alike cast b r₂ r₁ :=
  ⟨h.right, h.left, h.live.symm, h.view.symm⟩

theorem Alike.trans {r₃ : Recorder} (h : Alike cast b r₁ r₂) (h' : Alike cast b r₂ r₃) :
    Alike cast b r₁ r₃ :=
  ⟨h.left, h'.right, h.live.trans h'.live, h.view.trans h'.view⟩

theorem Alike.exists_stream (h : Alike cast b r₁ r₂) (hb : r₁.session.stream? b = some stream) :
    ∃ stream', r₂.session.stream? b = some stream' ∧ stream.nameless = stream'.nameless ∧
      (r₁.told b).filterMap Entry.nameless? = (r₂.told b).filterMap Entry.nameless? ∧
      r₁.host.callsOf b = r₂.host.callsOf b ∧
      r₁.host.failures.filter (·.stream = b) = r₂.host.failures.filter (·.stream = b) := by
  have hview := h.view
  unfold Recorder.view at hview
  rw [hb] at hview
  obtain ⟨stream', hstream', hview⟩ := Option.map_eq_some_iff.mp hview.symm
  injection hview with hstream htold hcalls hfailures
  exact ⟨stream', hstream', hstream.symm, htold.symm, hcalls.symm, hfailures.symm⟩

theorem Alike.stream?_eq_none (h : Alike cast b r₁ r₂) (hb : r₁.session.stream? b = none) :
    r₂.session.stream? b = none := by
  have hview := h.view
  unfold Recorder.view at hview
  rw [hb] at hview
  exact Option.map_eq_none_iff.mp hview.symm

/-- Two recorders stay alike when the same is done with the stream. -/
theorem Alike.does (h : Alike cast b r₁ r₂) (h₁ : r₁.Does cast b act r₁')
    (h₂ : r₂.Does cast b act r₂') : Alike cast b r₁' r₂' where
  left := h₁.quiet
  right := h₂.quiet
  live := h₁.live.trans (h.live.trans h₂.live.symm)
  view := by rw [h₁.view, h₂.view, h.view]

/-- A recorder stays alike when nothing is done with the stream. -/
theorem Does.alike (h : r.Does cast b Stream.rest r') (hr : r.Quiet cast) : Alike cast b r r' where
  left := hr
  right := h.quiet
  live := h.live.symm
  view := by rw [h.view, view_does_rest]

/-! ## Calls -/

/-- The recorder has counted a call. -/
def counted (r : Recorder) (i : Nat) (point : Point) : Recorder :=
  { r with host := r.host.countCall i point }

theorem lookup_filter_ne {kind kind' : Nat × Point} (h : kind ≠ kind')
    (calls : List ((Nat × Point) × Nat)) :
    (calls.filter (·.1 ≠ kind)).lookup kind' = calls.lookup kind' := by
  induction calls with
  | nil => rfl
  | cons call calls ih =>
    obtain ⟨kind'', count⟩ := call
    by_cases hkind : kind'' = kind
    · subst hkind
      rw [List.filter_cons_of_neg (by simp), ih, List.lookup_cons, beq_eq_false_iff_ne.mpr h.symm]
    · rw [List.filter_cons_of_pos (by simpa using hkind), List.lookup_cons, List.lookup_cons, ih]

/-- Only the calls of the kind that is counted are more than before. -/
theorem callsOf_countCall (h : Host) (i b : Nat) (point point' : Point) :
    (h.countCall i point).callsOf b point'
      = if (i, point) = (b, point') then h.callsOf b point' + 1 else h.callsOf b point' := by
  unfold Host.callsOf Host.countCall
  by_cases heq : (i, point) = (b, point')
  · simp [heq, Host.callsOf]
  · rw [if_neg heq, List.lookup_cons, beq_eq_false_iff_ne.mpr (Ne.symm heq), lookup_filter_ne heq]

theorem Quiet.counted (h : r.Quiet cast) (i : Nat) (point : Point) :
    (r.counted i point).Quiet cast :=
  ⟨h.members, h.silent, h.channels, h.slots, h.names, h.camera, h.answers, h.hooks, h.selfDriven⟩

theorem view_counted (r : Recorder) (i b : Nat) (point : Point) : (r.counted i point).view b
    = (r.view b).map fun v => if i = b then v.counted point else v := by
  have hcalls : (r.host.countCall i point).callsOf b = fun kind =>
      if i = b ∧ point = kind then r.host.callsOf b kind + 1 else r.host.callsOf b kind := by
    funext kind
    simp [callsOf_countCall]
  unfold view
  rw [Option.map_map]
  congr 1
  funext stream
  simp only [Recorder.counted, hcalls, Function.comp_apply]
  by_cases hib : i = b
  · simp only [hib, true_and, if_true]
    rfl
  · simp only [hib, false_and, if_false]
    rfl

/-- Recorders stay alike when a call is counted for both. -/
theorem Alike.counted (h : Alike cast b r₁ r₂) (point : Point) :
    Alike cast b (r₁.counted b point) (r₂.counted b point) :=
  ⟨h.left.counted b point, h.right.counted b point, h.live,
    by rw [view_counted, view_counted, h.view]⟩

/-- A call of another stream is not seen. -/
theorem Quiet.alike_counted (h : r.Quiet cast) (hib : i ≠ b) (point : Point) :
    Alike cast b r (r.counted i point) :=
  ⟨h, h.counted i point, rfl, by simp [view_counted, hib]⟩

/-- The failure that strikes the next call of a stream. -/
def striking? (r : Recorder) (i : Nat) (point : Point) : Option Failure :=
  r.host.failures.find? (·.strikes i point (r.host.callsOf i point + 1))

theorem Alike.striking (h : Alike cast b r₁ r₂) (hb : r₁.session.stream? b = some stream)
    (point : Point) : r₁.striking? b point = r₂.striking? b point := by
  have hown (r : Recorder) : r.striking? b point
      = (r.host.failures.filter (·.stream = b)).find?
          (·.strikes b point (r.host.callsOf b point + 1)) := by
    rw [List.find?_filter]
    unfold striking?
    congr 1
    funext failure
    simp only [Failure.strikes]
    by_cases hf : failure.stream = b <;> simp [hf]
  obtain ⟨-, -, -, -, hcalls, hfailures⟩ := h.exists_stream hb
  rw [hown, hown, hcalls, hfailures]

/-! ## Tasks -/

/-- A stream and its settings are those of the cast. -/
theorem Quiet.member (h : r.Quiet cast) (i : Nat) :
    (r.session.stream? i).map (fun stream => (stream.handle, stream.config))
      = cast[i]?.map fun member => (member.1, member.2.1) := by
  rw [← h.members, Session.cast, Session.stream?, List.getElem?_map, Option.map_map, Option.map_map]
  rfl

theorem Quiet.indexOf?_eq (h : r.Quiet cast) (channel : UInt32) :
    r.session.indexOf? channel = cast.indexOf? channel := by
  rw [Session.indexOf?_eq, h.members]

/-- No two streams read one channel, so a call is ascribed to its stream. -/
theorem Quiet.ascribed (h : r.Quiet cast) (hi : r.session.stream? i = some stream) (point : Point) :
    r.ascribed i stream.handle.channelId point = i := by
  have hmember := h.member i
  rw [hi, Option.map_some] at hmember
  obtain ⟨member, hcast, hsame⟩ := Option.map_eq_some_iff.mp hmember.symm
  have hown := Session.Cast.indexOf?_eq_some h.channels hcast
  rw [(Prod.mk.inj hsame).1] at hown
  unfold Recorder.ascribed
  rw [h.indexOf?_eq, hown]
  cases point <;> rfl

/-- The camera does nothing when it is asked. -/
theorem Quiet.askCamera (h : r.Quiet cast) (channel : UInt32) (point : Point) :
    r.askCamera channel point = r := by
  cases point with
  | keyFrame =>
    have hcamera : ({ r.host with camera := r.host.camera.map (·.askKeyFrame channel) } : Host)
        = r.host := by
      rw [h.camera, Option.map_none, ← h.camera]
    simp only [Recorder.askCamera, hcamera]
  | thumbnail => simp [Recorder.askCamera, h.camera, h.answers]
  | _ => rfl

/-- The application does nothing during a call. -/
theorem Quiet.runHooks (h : r.Quiet cast) (i : Nat) (point : Point) (count : Nat) :
    r.runHooks i point count = r := by
  have hhooks : ({ r.host with hooks := [] } : Host) = r.host := by rw [← h.hooks]
  unfold Recorder.runHooks
  simp only [h.hooks, List.partition_eq_filter_filter, List.filter_nil, hhooks, List.flatMap_nil]
  rfl

theorem Quiet.does_replyTo (h : r.Quiet cast) (i b : Nat) (faulty : Bool) :
    r.Does cast b
      (if i = b then (·.move (.reply (if faulty then some .io else none))) else Stream.rest)
      (r.update (r.session.replyTo i faulty)) :=
  h.does_update (Session.does_replyTo h.silent i b faulty)
    (Stream.respects_ite (Stream.respects_move _) _)

/-- A call is counted, and ends as it is scripted. -/
theorem Quiet.does_serve (h : r.Quiet cast) (hi : r.session.stream? i = some stream) (point : Point)
    (b : Nat) : (r.counted i point).Does cast b
      (if i = b then Stream.outcome (r.striking? i point) else Stream.rest)
      (r.serve i stream.handle.channelId point) := by
  have hcounted := h.counted i point
  have hcount : (r.host.countCall i point).callsOf i point = r.host.callsOf i point + 1 := by
    rw [callsOf_countCall, if_pos rfl]
  have hserve : r.serve i stream.handle.channelId point
      = match r.striking? i point with
        | none => (r.counted i point).update ((r.counted i point).session.replyTo i false)
        | some failure =>
          if failure.isCrash then
            { r.counted i point with session := (r.counted i point).session.crash i }
          else (r.counted i point).update ((r.counted i point).session.replyTo i true) := by
    have hsame : { r with host := r.host.countCall i point } = r.counted i point := rfl
    unfold Recorder.serve striking?
    simp only [h.ascribed hi, h.askCamera, hsame, hcounted.runHooks]
    rw [show (r.counted i point).host = r.host.countCall i point from rfl, hcount]
    rfl
  rw [hserve]
  cases hstrikes : r.striking? i point with
  | none => exact hcounted.does_replyTo i b false
  | some failure =>
    cases hcrash : failure.isCrash with
    | false =>
      have houtcome : Stream.outcome (some failure) = (·.move (.reply (some .io))) := by
        funext stream
        simp [Stream.outcome, hcrash]
      simp only [houtcome, hcrash, Bool.false_eq_true, if_false]
      exact hcounted.does_replyTo i b true
    | true =>
      have houtcome : Stream.outcome (some failure) = fun stream => (stream.crash, []) := by
        funext stream
        simp [Stream.outcome, hcrash]
      have hrespects := Stream.respects_outcome (some failure)
      rw [houtcome] at hrespects
      simp only [houtcome, hcrash, if_true]
      have hdoes : (r.counted i point).Does cast b
          (if i = b then fun stream => (stream.crash, []) else Stream.rest)
          ((r.counted i point).update ((r.counted i point).session.crash i, [])) :=
        hcounted.does_update (Session.does_crash hcounted.silent i b)
          (Stream.respects_ite hrespects _)
      exact hdoes

/-- A call for a name is answered with one, and it does not matter with which. -/
theorem Quiet.does_nameFile (h : r.Quiet cast) (hi : r.session.stream? i = some stream) (b : Nat) :
    r.Does cast b (if i = b then (·.move (.named none (.ok ⟨[]⟩))) else Stream.rest)
      (r.nameFile i) := by
  have hlt : i < r.session.names.slots.length := by
    obtain ⟨track, htrack, -⟩ := Option.map_eq_some_iff.mp hi
    have hlt := (List.getElem?_eq_some_iff.mp htrack).1
    rw [h.slots, ← h.members]
    simpa [Session.cast] using hlt
  obtain ⟨⟨asked, p, hdoes⟩, hnames⟩ := Session.does_nameFile h.names hlt b
  unfold Recorder.nameFile
  generalize r.session.nameFile NameSource.request i r.host.names = made at hdoes hnames
  obtain ⟨session, entries, names⟩ := made
  -- the host has another source of names
  let r₀ : Recorder := { r with host := { r.host with names } }
  have h₀ : r₀.Quiet cast :=
    ⟨h.members, h.silent, h.channels, h.slots, hnames, h.camera, h.answers, h.hooks, h.selfDriven⟩
  have hmade : r₀.Does cast b (if i = b then (·.move (.named asked (.ok p))) else Stream.rest)
      (r₀.update (session, entries)) :=
    h₀.does_update hdoes (Stream.respects_ite (Stream.respects_move _) _)
  refine ⟨hmade.quiet, hmade.live, hmade.view.trans ?_⟩
  show (r.view b).map _ = (r.view b).map _
  by_cases hib : i = b
  · rw [if_pos hib, if_pos hib]
    congr 1
    funext v
    simp only [View.does, Stream.namelessly_move_named v.stream asked p]
  · rw [if_neg hib, if_neg hib]

/-- The call of a worker is counted, if it is one of those that are. -/
def calling (r : Recorder) (i : Nat) : Option Point → Recorder
  | none => r
  | some point => r.counted i point

/-- A worker that is awake does what is next for its stream. -/
theorem Quiet.does_advance? (h : r.Quiet cast) (hi : r.session.stream? i = some stream) (b : Nat) :
    match stream.next? (r.striking? i) with
    | none => r.advance? i = none
    | some (point, act) => ∃ r', r.advance? i = some r' ∧
        (r.calling i point).Does cast b (if i = b then act else Stream.rest) r' := by
  cases hmade : stream.advance? with
  | some made =>
    have hmove : stream.move .advance = made := by
      rw [Stream.move, hmade]
      rfl
    have hdoes : r.session.Does b (if i = b then (·.move .advance) else Stream.rest)
        (made.2.map (i, ·)) (r.session.setStream i made.1) :=
      Session.does_setStream hi hmove (hmove ▸ (stream.step_move .advance).same) b
    have hdone : r.Does cast b (if i = b then (·.move .advance) else Stream.rest)
        (r.update (r.session.setStream i made.1, made.2.map (i, ·))) :=
      h.does_update hdoes (Stream.respects_ite (Stream.respects_move _) _)
    simp only [Stream.next?, hmade, Option.isSome_some, if_true]
    exact ⟨_, by simp only [Recorder.advance?, hi, hmade], hdone⟩
  | none =>
    simp only [Stream.next?, Recorder.advance?, hi, hmade, Option.isSome_none, Bool.false_eq_true,
      if_false]
    cases stream.activity.task? with
    | none => rfl
    | some task =>
      cases task with
      | naming ticket generation => exact ⟨_, rfl, h.does_nameFile hi b⟩
      | creating | beginning | writingVideo | writingAudio | askingKeyFrame | askingThumbnail
        | trailing | finishing | ending => exact ⟨_, rfl, h.does_serve hi _ b⟩
      | _ => exact ⟨_, rfl, h.does_replyTo i b false⟩

theorem Alike.calling (h : Alike cast b r₁ r₂) (point : Option Point) :
    Alike cast b (r₁.calling b point) (r₂.calling b point) := by
  cases point with
  | none => exact h
  | some point => exact h.counted point

theorem Quiet.alike_calling (h : r.Quiet cast) (hib : i ≠ b) (point : Option Point) :
    Alike cast b r (r.calling i point) := by
  cases point with
  | none => exact h.alike b
  | some point => exact h.alike_counted hib point

/-- A worker does its next task alike in both. -/
theorem Alike.advance? (h : Alike cast b r₁ r₂) :
    Option.Rel (Alike cast b) (r₁.advance? b) (r₂.advance? b) := by
  cases hb : r₁.session.stream? b with
  | none =>
    have hb' := h.stream?_eq_none hb
    simp only [Recorder.advance?, hb, hb']
    exact .none
  | some stream =>
    obtain ⟨stream', hb', hsame, -⟩ := h.exists_stream hb
    -- the same is next in both
    have hstriking : r₁.striking? b = r₂.striking? b := funext (h.striking hb)
    have hnext : stream.next? (r₁.striking? b) = stream'.next? (r₂.striking? b) := by
      rw [← stream.next?_nameless, hsame, stream'.next?_nameless, hstriking]
    have h₁ := h.left.does_advance? hb b
    have h₂ := h.right.does_advance? hb' b
    rw [hnext] at h₁
    cases hmade : stream'.next? (r₂.striking? b) with
    | none =>
      simp only [hmade] at h₁ h₂
      rw [h₁, h₂]
      exact .none
    | some made =>
      simp only [hmade] at h₁ h₂
      obtain ⟨r₁', hmade₁, hdoes₁⟩ := h₁
      obtain ⟨r₂', hmade₂, hdoes₂⟩ := h₂
      rw [hmade₁, hmade₂]
      exact .some ((h.calling made.1).does hdoes₁ hdoes₂)

/-- The next task of another worker is not seen. -/
theorem Quiet.advance?_other (h : r.Quiet cast) (hib : i ≠ b) (hmade : r.advance? i = some r') :
    Alike cast b r r' := by
  cases hi : r.session.stream? i with
  | none => simp [Recorder.advance?, hi] at hmade
  | some stream =>
    have hdone := h.does_advance? hi b
    cases hnext : stream.next? (r.striking? i) with
    | none =>
      simp only [hnext] at hdone
      cases hdone.symm.trans hmade
    | some made =>
      simp only [hnext, if_neg hib] at hdone
      obtain ⟨r'', hmade', hdoes⟩ := hdone
      cases hmade'.symm.trans hmade
      have hcalling := h.alike_calling hib made.1
      exact hcalling.trans (hdoes.alike hcalling.right)

/-- A worker runs alike in both. -/
theorem Alike.run (h : Alike cast b r₁ r₂) (fuel : Nat) :
    Alike cast b (Recorder.run fuel r₁ b) (Recorder.run fuel r₂ b) := by
  induction fuel generalizing r₁ r₂ with
  | zero => exact h
  | succ fuel ih =>
    have hrel := h.advance?
    unfold Recorder.run
    generalize r₁.advance? b = made₁ at hrel
    generalize r₂.advance? b = made₂ at hrel
    cases hrel with
    | none => exact h
    | some hmade => exact ih hmade

theorem Quiet.run_other (h : r.Quiet cast) (hib : i ≠ b) (fuel : Nat) :
    Alike cast b r (Recorder.run fuel r i) := by
  induction fuel generalizing r with
  | zero => exact h.alike b
  | succ fuel ih =>
    unfold Recorder.run
    cases hmade : r.advance? i with
    | none => exact h.alike b
    | some r' =>
      have halike := h.advance?_other hib hmade
      exact halike.trans (ih halike.right)

/-! ## Wakes -/

/-- What is done with other streams, in each of two recorders, leaves them alike. -/
theorem Alike.apart (h : Alike cast b r₁ r₂) (h₁ : Alike cast b r₁ r₁') (h₂ : Alike cast b r₂ r₂') :
    Alike cast b r₁' r₂' :=
  h₁.symm.trans (h.trans h₂)

theorem Alike.tasksAhead (h : Alike cast b r₁ r₂) : r₁.tasksAhead b = r₂.tasksAhead b := by
  have hleft (r : Recorder) (hr : r.Quiet cast) : r.host.actionsLeft = 0 := by
    simp [Host.actionsLeft, hr.hooks]
  unfold Recorder.tasksAhead
  rw [hleft r₁ h.left, hleft r₂ h.right]
  cases hb : r₁.session.stream? b with
  | none => rw [h.stream?_eq_none hb]
  | some stream =>
    obtain ⟨stream', hb', hsame, -⟩ := h.exists_stream hb
    have hvideo : stream.video = stream'.video :=
      show stream.nameless.video = stream'.nameless.video by rw [hsame]
    have haudio : stream.audio = stream'.audio :=
      show stream.nameless.audio = stream'.nameless.audio by rw [hsame]
    simp only [hb', hvideo, haudio]

theorem Quiet.does_wake (h : r.Quiet cast) (i b : Nat) :
    r.Does cast b (if i = b then (·.move .wake) else Stream.rest)
      (r.update (r.session.wake i)) :=
  h.does_update (Session.does_onStream r.session i b fun stream => (stream.step_move .wake).same)
    (Stream.respects_ite (Stream.respects_move .wake) _)

theorem Quiet.wake_other (h : r.Quiet cast) (hib : i ≠ b) : Alike cast b r (r.wake i) := by
  have hdoes := h.does_wake i b
  rw [if_neg hib] at hdoes
  have hwoken := hdoes.alike h
  exact hwoken.trans (hwoken.right.run_other hib _)

/-- Two recorders stay alike when a worker is woken in both. -/
theorem Alike.wake (h : Alike cast b r₁ r₂) (i : Nat) : Alike cast b (r₁.wake i) (r₂.wake i) := by
  by_cases hib : i = b
  · subst hib
    have hwoken := h.does (h.left.does_wake i i) (h.right.does_wake i i)
    unfold Recorder.wake
    simp only [hwoken.tasksAhead]
    exact hwoken.run _
  · exact h.apart (h.left.wake_other hib) (h.right.wake_other hib)

theorem Alike.wakeAll (h : Alike cast b r₁ r₂) : Alike cast b r₁.wakeAll r₂.wakeAll := by
  have hlength (r : Recorder) (hr : r.Quiet cast) : r.session.tracks.length = cast.length := by
    rw [← hr.members, Session.cast, List.length_map]
  unfold Recorder.wakeAll
  rw [hlength r₁ h.left, hlength r₂ h.right]
  exact List.foldl_rel h fun i _ _ _ h => h.wake i

/-! ## Actions -/

theorem Quiet.does_submitTo (h : r.Quiet cast)
    {submit : Stream → Except SubmitError (Stream × List Entry)} {m : Stream.Move}
    (hmove : ∀ stream : Stream, stream.submitted (submit stream) = stream.move m) (i b : Nat) :
    r.Does cast b (if i = b then (·.move m) else Stream.rest)
      (r.submitted (r.session.submitTo i submit)).2 := by
  have hupdate : (r.submitted (r.session.submitTo i submit)).2
      = r.update (r.session.submitted (r.session.submitTo i submit)) := by
    cases r.session.submitTo i submit <;> rfl
  rw [hupdate]
  exact h.does_update (Session.does_submitTo hmove r.session i b)
    (Stream.respects_ite (Stream.respects_move m) _)

/-- What an action is for the stream of a number. -/
def done (live : Bool) (cast : Session.Cast) (b : Nat) : Action → Stream → Stream × List Entry
  | .start => if live then (·.move .start) else Stream.rest
  | .stop => if live then (·.move .stop) else Stream.rest
  | .video channel frame =>
    if cast.indexOf? channel = some b then (·.move (.submit .video frame)) else Stream.rest
  | .audio frame => (·.move (.submit .audio frame))
  | .audioTo i frame => if i = b then (·.move (.submit .audio frame)) else Stream.rest
  | .thumbnail frame => (·.move (.submit .thumbnail frame))
  | .thumbnailTo i frame => if i = b then (·.move (.submit .thumbnail frame)) else Stream.rest

theorem Quiet.does_act (h : r.Quiet cast) (action : Action) (b : Nat) :
    r.Does cast b (done r.isLive cast b action) (r.act action).2 := by
  have hswitch (m : Stream.Move) : r.Does cast b (if r.isLive then (·.move m) else Stream.rest)
      (if r.isLive then r.update (r.session.onStreams (·.move m)) else r) := by
    cases r.isLive with
    | true =>
      exact h.does_update (Session.does_move_onStreams r.session b m) (Stream.respects_move m)
    | false => exact h.does_rest b
  have hbroadcast (kind : LaneKind) (frame : Frame) : r.Does cast b (·.move (.submit kind frame))
      (r.broadcast (r.session.broadcast kind frame)).2 :=
    h.does_update (Session.does_broadcast r.session b kind frame) (Stream.respects_move _)
  cases action with
  | start => exact hswitch .start
  | stop => exact hswitch .stop
  | audio frame => exact hbroadcast .audio frame
  | thumbnail frame => exact hbroadcast .thumbnail frame
  | audioTo i frame | thumbnailTo i frame => exact h.does_submitTo (fun _ => rfl) i b
  | video channel frame =>
    simp only [done, act, Session.submitVideo, h.indexOf?_eq]
    cases cast.indexOf? channel with
    | none => exact h.does_rest b
    | some i =>
      simp only [Option.some.injEq]
      exact h.does_submitTo (fun _ => rfl) i b

/-- Two recorders stay alike under the same action. -/
theorem Alike.acted (h : Alike cast b r₁ r₂) (action : Action) :
    Alike cast b (r₁.act action).2 (r₂.act action).2 := by
  have h₂ := h.right.does_act action b
  rw [← h.live] at h₂
  exact h.does (h.left.does_act action b) h₂

end Recorder

end CameraRecorder
