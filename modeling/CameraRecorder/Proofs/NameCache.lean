import CameraRecorder.NameCache
import Mathlib.Data.List.Basic

/-!
# Names are given out once

Whatever requests for names bring, and in whatever order streams call for names, each name that is
given comes from the latest batch that named every stream, and no name of a batch is given twice. A
ledger keeps account of a series of calls (`NameCache.Ledger`): the batches that came, and the names
that were given out of them. The cache agrees with it (`NameCache.Agrees`), so a request is made
exactly when the latest batch has no name left for the stream that calls.
-/

namespace CameraRecorder

namespace NameCache

variable {σ : Type} {request : UInt32 → Nat → σ → Except NameError (List Path) × σ}
  {c c' : NameCache} {i n : Nat} {source : σ}

/-! ## Calls -/

/-- A request for names: what it was made with, and what it brought. -/
structure Request where
  cameraId : UInt32
  count : Nat
  batch : Except NameError (List Path)

/-- A call for a name: the stream that calls, the requests that are made for it, and the answer. -/
structure Call where
  index : Nat
  requests : List Request
  answer : Except NameError Path

/-- A source of names that keeps a note of each request. -/
def noting (request : UInt32 → Nat → σ → Except NameError (List Path) × σ) (cameraId : UInt32)
    (count : Nat) (source : σ × List Request) :
    Except NameError (List Path) × σ × List Request :=
  let (batch, rest) := request cameraId count source.1
  (batch, rest, source.2 ++ [⟨cameraId, count, batch⟩])

/-- A call, the cache after it, and what the source has become. -/
def serve (request : UInt32 → Nat → σ → Except NameError (List Path) × σ) (c : NameCache) (i : Nat)
    (source : σ) : Call × NameCache × σ :=
  let (answer, c, source, requests) := c.next (noting request) i (source, [])
  (⟨i, requests, answer⟩, c, source)

/-- A series of calls, the cache after them, and what the source has become. -/
def serveAll (request : UInt32 → Nat → σ → Except NameError (List Path) × σ) (c : NameCache)
    (source : σ) : List Nat → List Call × NameCache × σ
  | [] => ([], c, source)
  | i :: indices =>
    let (call, c, source) := c.serve request i source
    let (calls, c, source) := c.serveAll request source indices
    (call :: calls, c, source)

/-- Why a batch is of no use to `n` streams. -/
def failure? (n : Nat) : Except NameError (List Path) → Option NameError
  | .error e => some e
  | .ok paths =>
    if paths.isEmpty then some .noPaths
    else if paths.length < n then some (.short n paths.length)
    else none

theorem bind_refill_eq_error {batch : Except NameError (List Path)} {e : NameError}
    (h : failure? c.slots.length batch = some e) : (batch >>= c.refill) = .error e := by
  cases batch with
  | error e' =>
    cases h
    rfl
  | ok paths =>
    show c.refill paths = .error e
    unfold failure? at h
    unfold refill
    dsimp only at h
    split at h
    · next hempty =>
      cases h
      rw [if_pos hempty]
    · next hempty =>
      split at h
      · next hshort =>
        cases h
        rw [if_neg hempty, if_pos hshort]
      · cases h

theorem refill_eq_ok {paths : List Path} (h : failure? c.slots.length (.ok paths) = none) :
    c.refill paths = .ok { c with slots := (paths.take c.slots.length).map some } := by
  unfold failure? at h
  unfold refill
  dsimp only at h
  split at h
  · cases h
  · next hempty =>
    split at h
    · cases h
    · next hlong => rw [if_neg hempty, if_neg hlong]

theorem le_length_of_failure {paths : List Path} (h : failure? n (.ok paths) = none) :
    n ≤ paths.length := by
  unfold failure? at h
  dsimp only at h
  split at h
  · cases h
  · split at h
    · cases h
    · next hlong => exact Nat.le_of_not_lt hlong

theorem failure_eq_none {paths : List Path} (hany : 0 < n) (hfull : n ≤ paths.length) :
    failure? n (.ok paths) = none := by
  have hempty : paths.isEmpty = false := by
    cases paths with
    | nil => exact absurd (Nat.lt_of_lt_of_le hany hfull) (Nat.lt_irrefl 0)
    | cons => rfl
  simp [failure?, hempty, Nat.not_lt.mpr hfull]

/-- A call for which a name is kept. -/
theorem serve_of_kept {path : Path} (h : c.slots[i]? = some (some path)) :
    c.serve request i source
      = (⟨i, [], .ok path⟩, { c with slots := c.slots.set i none }, source) := by
  simp [serve, next, take?, h]

/-- A call for which a request is made in vain. -/
theorem serve_of_failure {batch : Except NameError (List Path)} {rest : σ} {e : NameError}
    (h : c.slots[i]? = some none) (hmade : request c.cameraId c.slots.length source = (batch, rest))
    (hfails : failure? c.slots.length batch = some e) : c.serve request i source
      = (⟨i, [⟨c.cameraId, c.slots.length, batch⟩], .error e⟩, c, rest) := by
  simp [serve, next, take?, noting, h, hmade, bind_refill_eq_error hfails]

/-- A call for which a batch is fetched. -/
theorem serve_of_fetched {paths : List Path} {path : Path} {rest : σ}
    (h : c.slots[i]? = some none)
    (hmade : request c.cameraId c.slots.length source = (.ok paths, rest))
    (hgood : failure? c.slots.length (.ok paths) = none) (hpath : paths[i]? = some path) :
    c.serve request i source = (⟨i, [⟨c.cameraId, c.slots.length, .ok paths⟩], .ok path⟩,
      { c with slots := ((paths.take c.slots.length).map some).set i none }, rest) := by
  have hi : i < c.slots.length := (List.getElem?_eq_some_iff.mp h).1
  have hkept : ((paths.take c.slots.length).map some)[i]?.join = some path := by
    simp [hi, hpath]
  have hfilled : (Except.ok paths >>= c.refill)
      = .ok { c with slots := (paths.take c.slots.length).map some } := refill_eq_ok hgood
  simp only [serve, next, take?, noting, h, hmade, hfilled, hkept, Option.join_some,
    Option.map_none, Option.map_some, List.nil_append]

/-- Keeping notes of the requests changes nothing else. -/
theorem next_eq_serve (c : NameCache) (i : Nat) (source : σ) : c.next request i source
    = ((c.serve request i source).1.answer, (c.serve request i source).2) := by
  unfold serve next noting
  cases c.take? i with
  | some taken => rfl
  | none =>
    dsimp only
    cases (request c.cameraId c.slots.length source).1 >>= c.refill with
    | error e => rfl
    | ok filled =>
      dsimp only
      cases filled.take? i <;> rfl

/-! ## Accounts -/

/-- The batch that a request brought, if it names every one of `n` streams. -/
def Request.good? (n : Nat) (r : Request) : Option (List Path) :=
  match r.batch with
  | .ok paths => if n ≤ paths.length then some paths else none
  | .error _ => none

/-- What came and what was given out in a series of calls. -/
structure Ledger where
  /-- The batches that named every stream, the latest first. -/
  batches : List (List Path) := []
  /-- The names that were given out, the latest first: the number of the batch, counted from one,
  and the position in it. -/
  given : List (Nat × Nat) := []

namespace Ledger

/-- The account after one more call. -/
def note (n : Nat) (l : Ledger) (call : Call) : Ledger :=
  let batches := (call.requests.filterMap (·.good? n)).reverse ++ l.batches
  { batches
    given := if call.answer.isOk then (batches.length, call.index) :: l.given else l.given }

/-- The account of a series of calls of `n` streams. -/
def ofCalls (n : Nat) (calls : List Call) : Ledger := calls.foldl (note n) {}

/-- Whether the latest batch has a name left for a stream. -/
def HasLeft (l : Ledger) (i : Nat) : Prop := l.batches ≠ [] ∧ (l.batches.length, i) ∉ l.given

end Ledger

variable {l : Ledger}

/-- The cache keeps what the latest batch has left, and the account is in order: each batch in it
names every stream, and what a stream is given later is of a later batch. -/
structure Agrees (c : NameCache) (n : Nat) (l : Ledger) : Prop where
  length : c.slots.length = n
  slots : ∀ i < n, c.slots[i]? = some
    (if (l.batches.length, i) ∈ l.given then none else l.batches.head?.bind (·[i]?))
  full : ∀ batch ∈ l.batches, n ≤ batch.length
  numbered : ∀ name ∈ l.given, name.1 ≤ l.batches.length
  rising : l.given.Pairwise fun later earlier => later.2 = earlier.2 → earlier.1 < later.1

/-- What a call of one of `n` streams does: the account before it, the cache, and both results. -/
inductive Serves (n : Nat) (l : Ledger) (c : NameCache) : Call → NameCache → Prop
  | kept {i : Nat} {batch : List Path} {path : Path} (hleft : l.HasLeft i)
    (hbatch : l.batches.head? = some batch) (hpath : batch[i]? = some path) :
    Serves n l c ⟨i, [], .ok path⟩ { c with slots := c.slots.set i none }
  | fetched {i : Nat} {paths : List Path} {path : Path} (hleft : ¬ l.HasLeft i)
    (hgood : n ≤ paths.length) (hpath : paths[i]? = some path) :
    Serves n l c ⟨i, [⟨c.cameraId, n, .ok paths⟩], .ok path⟩
      { c with slots := ((paths.take n).map some).set i none }
  | failed {i : Nat} {batch : Except NameError (List Path)} {e : NameError} (hleft : ¬ l.HasLeft i)
    (hfails : failure? n batch = some e) : Serves n l c ⟨i, [⟨c.cameraId, n, batch⟩], .error e⟩ c

theorem good?_of_failure {cameraId : UInt32} {count : Nat} {batch : Except NameError (List Path)}
    {e : NameError} (hn : 0 < n) (h : failure? n batch = some e) :
    Request.good? n ⟨cameraId, count, batch⟩ = none := by
  cases batch with
  | error e' => rfl
  | ok paths =>
    refine if_neg fun hlong => ?_
    unfold failure? at h
    dsimp only at h
    split at h
    · next hempty =>
      rw [List.isEmpty_iff.mp hempty, List.length_nil] at hlong
      omega
    · split at h
      · omega
      · cases h

/-- **What a call does**, if the cache agrees with the account so far. -/
theorem Agrees.serves (h : c.Agrees n l) (hi : i < n)
    (request : UInt32 → Nat → σ → Except NameError (List Path) × σ) (source : σ) :
    Serves n l c (c.serve request i source).1 (c.serve request i source).2.1 := by
  have hslot := h.slots i hi
  by_cases hgiven : (l.batches.length, i) ∈ l.given ∨ l.batches = []
  · have hleft : ¬ l.HasLeft i := fun hleft => hgiven.elim hleft.2 hleft.1
    have hnone : c.slots[i]? = some none := by
      rw [hslot]
      rcases hgiven with hgiven | hnil
      · rw [if_pos hgiven]
      · rw [hnil]
        split <;> rfl
    cases hmade : request c.cameraId c.slots.length source with
    | mk batch rest =>
      cases hfails : failure? c.slots.length batch with
      | some e =>
        rw [serve_of_failure hnone hmade hfails, h.length]
        rw [h.length] at hfails
        exact .failed hleft hfails
      | none =>
        cases batch with
        | error e => cases hfails
        | ok paths =>
          have hlong := le_length_of_failure hfails
          rw [h.length] at hlong
          have hpath : paths[i]? = some paths[i] := List.getElem?_eq_getElem (by omega)
          rw [serve_of_fetched hnone hmade hfails hpath, h.length]
          exact .fetched hleft hlong hpath
  · obtain ⟨hgiven, hsome⟩ := not_or.mp hgiven
    obtain ⟨batch, hbatch⟩ := Option.ne_none_iff_exists'.mp (mt List.head?_eq_none_iff.mp hsome)
    have hlong := h.full batch (List.mem_of_head? hbatch)
    have hpath : batch[i]? = some batch[i] := List.getElem?_eq_getElem (by omega)
    have hkept : c.slots[i]? = some (some batch[i]) := by
      rw [hslot, if_neg hgiven, hbatch, Option.bind_some, hpath]
    rw [serve_of_kept hkept]
    exact .kept ⟨hsome, hgiven⟩ hbatch hpath

/-- What a name is given for is noted as the latest, and the account stays in order. -/
theorem rising_cons {given : List (Nat × Nat)} {number : Nat}
    (hrising : given.Pairwise fun later earlier => later.2 = earlier.2 → earlier.1 < later.1)
    (hnumbered : ∀ name ∈ given, name.1 ≤ number) (hnew : (number, i) ∉ given) :
    ((number, i) :: given).Pairwise fun later earlier =>
      later.2 = earlier.2 → earlier.1 < later.1 := by
  refine List.pairwise_cons.mpr ⟨?_, hrising⟩
  rintro ⟨earlier, i'⟩ hname hi
  obtain rfl : i = i' := hi
  refine Nat.lt_of_le_of_ne (hnumbered _ hname) fun heq => hnew ?_
  rwa [show earlier = number from heq] at hname

/-- The cache agrees with the account after a call, too. -/
theorem Serves.agrees {call : Call} (h : Serves n l c call c') (hc : c.Agrees n l)
    (hi : call.index < n) : c'.Agrees n (l.note n call) := by
  cases h with
  | @kept i batch path hleft hbatch hpath =>
    have hnote : l.note n ⟨i, [], .ok path⟩
        = { l with given := (l.batches.length, i) :: l.given } := rfl
    rw [hnote]
    refine ⟨?_, ?_, hc.full, ?_, rising_cons hc.rising hc.numbered hleft.2⟩
    · rw [List.length_set, hc.length]
    · intro j hj
      rw [List.getElem?_set, hc.length]
      by_cases hij : i = j
      · subst hij
        simp [hi]
      · simp [hij, Ne.symm hij, hc.slots j hj]
    · exact List.forall_mem_cons.mpr ⟨Nat.le_refl _, hc.numbered⟩
  | @fetched i paths path hleft hgood hpath =>
    have hnote : l.note n ⟨i, [⟨c.cameraId, n, .ok paths⟩], .ok path⟩
        = { batches := paths :: l.batches, given := (l.batches.length + 1, i) :: l.given } := by
      simp [Ledger.note, Request.good?, hgood, Except.isOk, Except.toBool]
    have hnew (j : Nat) : (l.batches.length + 1, j) ∉ l.given := fun hname =>
      Nat.not_succ_le_self _ (hc.numbered _ hname)
    rw [hnote]
    refine ⟨?_, ?_, List.forall_mem_cons.mpr ⟨hgood, hc.full⟩, ?_, ?_⟩
    · simp [hgood]
    · intro j hj
      rw [List.getElem?_set]
      by_cases hij : i = j
      · subst hij
        simp [hgood, hi]
      · simp [hij, Ne.symm hij, hnew, hj, List.getElem?_eq_getElem (Nat.lt_of_lt_of_le hj hgood)]
    · exact List.forall_mem_cons.mpr
        ⟨Nat.le_refl _, fun name hname => Nat.le_succ_of_le (hc.numbered name hname)⟩
    · exact rising_cons hc.rising
        (fun name hname => Nat.le_succ_of_le (hc.numbered name hname)) (hnew i)
  | @failed i batch e hleft hfails =>
    have hnote : l.note n ⟨i, [⟨c.cameraId, n, batch⟩], .error e⟩ = l := by
      simp [Ledger.note, good?_of_failure (Nat.zero_lt_of_lt hi) hfails, Except.isOk,
        Except.toBool]
    rw [hnote]
    exact hc

theorem agrees_create (cameraId : UInt32) (n : Nat) : (create cameraId n).Agrees n {} where
  length := List.length_replicate
  slots i hi := by simp [create, hi]
  full := List.forall_mem_nil _
  numbered := List.forall_mem_nil _
  rising := .nil

/-- A name that is given is the one for the stream in the latest batch. -/
theorem Serves.of_answer {call : Call} {path : Path} (h : Serves n l c call c') (hc : c.Agrees n l)
    (hpath : call.answer = .ok path) : ∃ batch, (l.note n call).batches.head? = some batch ∧
      n ≤ batch.length ∧ batch[call.index]? = some path := by
  cases h with
  | @kept i batch path _ hbatch hkept =>
    cases hpath
    exact ⟨batch, hbatch, hc.full batch (List.mem_of_head? hbatch), hkept⟩
  | @fetched i paths path _ hgood hfetched =>
    cases hpath
    exact ⟨paths, by simp [Ledger.note, Request.good?, hgood], hgood, hfetched⟩
  | failed => cases hpath

/-- No names are requested for a stream for which there is one. -/
theorem Serves.requests_eq_nil {call : Call} (h : Serves n l c call c')
    (hleft : l.HasLeft call.index) : call.requests = [] := by
  cases h with
  | kept => rfl
  | fetched hnone | failed hnone => exact absurd hleft hnone

/-- Names are requested once for a stream for which there is none. -/
theorem Serves.exists_request {call : Call} (h : Serves n l c call c')
    (hnone : ¬ l.HasLeft call.index) :
    ∃ batch, call.requests = [⟨c.cameraId, n, batch⟩] := by
  cases h with
  | kept hleft => exact absurd hleft hnone
  | fetched | failed => exact ⟨_, rfl⟩

/-- A call fails because its request did, or because of what it brought, and changes nothing. -/
theorem Serves.of_failure {call : Call} {e : NameError} (h : Serves n l c call c')
    (he : call.answer = .error e) :
    c' = c ∧ ∃ batch, call.requests = [⟨c.cameraId, n, batch⟩] ∧ failure? n batch = some e := by
  cases h with
  | kept | fetched => cases he
  | failed _ hfails =>
    cases he
    exact ⟨rfl, _, rfl, hfails⟩

theorem Serves.cameraId {call : Call} (h : Serves n l c call c') : c'.cameraId = c.cameraId := by
  cases h <;> rfl

/-- **After a series of calls the cache agrees with their account.** -/
theorem Agrees.serveAll (h : c.Agrees n l) {indices : List Nat} (hindices : ∀ i ∈ indices, i < n)
    (request : UInt32 → Nat → σ → Except NameError (List Path) × σ) (source : σ) :
    let served := c.serveAll request source indices
    served.2.1.Agrees n (served.1.foldl (Ledger.note n) l) ∧ served.2.1.cameraId = c.cameraId := by
  induction indices generalizing c l source with
  | nil => exact ⟨h, rfl⟩
  | cons i indices ih =>
    obtain ⟨hi, hindices⟩ := List.forall_mem_cons.mp hindices
    have hserves := h.serves hi request source
    obtain ⟨hagrees, hcamera⟩ := ih (hserves.agrees h hi) hindices
      (c.serve request i source).2.2
    exact ⟨hagrees, hcamera.trans hserves.cameraId⟩

/-! ## Names too many -/

/-- A source whose batches name no more streams than it was asked for. -/
def cutting (request : UInt32 → Nat → σ → Except NameError (List Path) × σ) (cameraId : UInt32)
    (count : Nat) (source : σ) : Except NameError (List Path) × σ :=
  let (batch, rest) := request cameraId count source
  (batch.map (·.take count), rest)

theorem refill_take (h : 0 < c.slots.length) (paths : List Path) :
    c.refill (paths.take c.slots.length) = c.refill paths := by
  have hempty : (paths.take c.slots.length).isEmpty = paths.isEmpty := by
    cases paths with
    | nil => rw [List.take_nil]
    | cons path paths =>
      obtain ⟨count, hcount⟩ := Nat.exists_eq_succ_of_ne_zero (Nat.ne_of_gt h)
      rw [hcount, List.take_succ_cons]
      rfl
  have hlength : (paths.take c.slots.length).length < c.slots.length ↔
      paths.length < c.slots.length := by
    rw [List.length_take]
    omega
  by_cases hshort : paths.length < c.slots.length
  · rw [List.take_of_length_le (Nat.le_of_lt hshort)]
  · unfold refill
    rw [hempty, if_neg hshort, if_neg (hlength.not.mpr hshort), List.take_take, Nat.min_self]

theorem next_cutting (h : 0 < c.slots.length)
    (request : UInt32 → Nat → σ → Except NameError (List Path) × σ) (i : Nat) (source : σ) :
    c.next (cutting request) i source = c.next request i source := by
  unfold next cutting
  cases c.take? i with
  | some taken => rfl
  | none =>
    dsimp only
    cases (request c.cameraId c.slots.length source).1 with
    | error e => rfl
    | ok paths =>
      have hrefill : (Except.map (·.take c.slots.length) (Except.ok paths) >>= c.refill)
          = (Except.ok paths >>= c.refill) := refill_take h paths
      rw [hrefill]

/-- Names beyond those of the streams make no difference. -/
theorem Agrees.serveAll_cutting (h : c.Agrees n l) {indices : List Nat}
    (hindices : ∀ i ∈ indices, i < n)
    (request : UInt32 → Nat → σ → Except NameError (List Path) × σ) (source : σ) :
    let cut := c.serveAll (cutting request) source indices
    let served := c.serveAll request source indices
    cut.1.map (·.answer) = served.1.map (·.answer) ∧ cut.2 = served.2 := by
  induction indices generalizing c l source with
  | nil => exact ⟨rfl, rfl⟩
  | cons i indices ih =>
    obtain ⟨hi, hindices⟩ := List.forall_mem_cons.mp hindices
    have hagrees := (h.serves hi request source).agrees h hi
    have hnext := next_cutting (h.length ▸ Nat.zero_lt_of_lt hi) request i source
    rw [next_eq_serve, next_eq_serve] at hnext
    obtain ⟨hanswer, hrest⟩ := Prod.mk.inj hnext
    obtain ⟨hanswers, hrests⟩ := ih hagrees hindices (c.serve request i source).2.2
    simp only [NameCache.serveAll, List.map_cons, hanswer, hrest, hanswers, hrests, and_self]

/-! ## Every call -/

/-- **Each name is given once, out of the latest batch.** `n` streams call for names in any order,
and whatever the requests bring, of each call after any series of calls: a name that is given is the
one for the stream in the latest batch that named every stream; no name of a batch is given twice,
and the names that one stream gets come from later and later batches; names are requested just once,
from the camera and for all streams, if the latest batch has no name left for the stream, and not at
all if it has one; a call that fails leaves the cache as it was, and fails because its request did,
or because the batch named no stream or too few. Names beyond those of the streams are passed
over. -/
theorem gives_latest_once (cameraId : UInt32) {n : Nat}
    (request : UInt32 → Nat → σ → Except NameError (List Path) × σ) (source : σ)
    {indices : List Nat} (hindices : ∀ j ∈ indices, j < n) {i : Nat} (hi : i < n) :
    let earlier := (create cameraId n).serveAll request source indices
    let now := earlier.2.1.serve request i earlier.2.2
    let account := Ledger.ofCalls n earlier.1
    let account' := account.note n now.1
    (∀ path, now.1.answer = .ok path → ∃ batch, account'.batches.head? = some batch ∧
      n ≤ batch.length ∧ batch[i]? = some path) ∧
    account'.given.Nodup ∧
    account'.given.Pairwise (fun later earlier => later.2 = earlier.2 → earlier.1 < later.1) ∧
    (account.HasLeft i → now.1.requests = []) ∧
    (¬ account.HasLeft i → ∃ batch, now.1.requests = [⟨cameraId, n, batch⟩]) ∧
    (∀ e, now.1.answer = .error e → now.2.1 = earlier.2.1 ∧
      ∃ batch, now.1.requests = [⟨cameraId, n, batch⟩] ∧ failure? n batch = some e) ∧
    let cut := (create cameraId n).serveAll (cutting request) source indices
    cut.1.map (·.answer) = earlier.1.map (·.answer) ∧ cut.2 = earlier.2 := by
  intro earlier now account account'
  obtain ⟨hagrees, hcamera⟩ := (agrees_create cameraId n).serveAll hindices request source
  have hserves : Serves n account earlier.2.1 now.1 now.2.1 :=
    hagrees.serves hi request earlier.2.2
  have hagrees' : now.2.1.Agrees n account' := hserves.agrees hagrees hi
  have hcamera : earlier.2.1.cameraId = cameraId := hcamera
  have hasks : ¬ account.HasLeft i → ∃ batch, now.1.requests = [⟨cameraId, n, batch⟩] := by
    rw [← hcamera]
    exact hserves.exists_request
  have hfails : ∀ e, now.1.answer = .error e → now.2.1 = earlier.2.1 ∧
      ∃ batch, now.1.requests = [⟨cameraId, n, batch⟩] ∧ failure? n batch = some e := by
    rw [← hcamera]
    exact fun e he => hserves.of_failure he
  refine ⟨fun path hpath => hserves.of_answer hagrees hpath, ?_, hagrees'.rising,
    hserves.requests_eq_nil, hasks, hfails, ?_⟩
  · refine hagrees'.rising.imp fun hrises heq => ?_
    have hlt := hrises (congrArg Prod.snd heq)
    rw [heq] at hlt
    exact Nat.lt_irrefl _ hlt
  · exact (agrees_create cameraId n).serveAll_cutting hindices request source

/-- A source that brings the batches of a list. -/
def listed (_ : UInt32) (_ : Nat) (batches : List (Except NameError (List Path))) :
    Except NameError (List Path) × List (Except NameError (List Path)) :=
  (batches.headD (.ok []), batches.tail)

/-- The second of two streams takes its name, and two requests that it makes are in vain; the first
stream is still given the name that was kept for it. -/
theorem gives_latest_once_after_failures :
    let batches := [.ok [⟨[1]⟩, ⟨[2]⟩, ⟨[3]⟩], .error (.other "busy"), .ok [⟨[4]⟩]]
    let earlier := (create 7 2).serveAll listed batches [1, 1, 1]
    let now := earlier.2.1.serve listed 0 earlier.2.2
    earlier.1.map (·.answer)
      = [.ok ⟨[2]⟩, .error (.other "busy"), .error (.short 2 1)] ∧
    now.1.requests = [] ∧ now.1.answer = .ok ⟨[1]⟩ := by
  intro batches earlier now
  have hindices : ∀ j ∈ [1, 1, 1], j < 2 := by decide
  have hfirst : 0 < 2 := by decide
  obtain ⟨-, -, -, hkept, -, -, -⟩ := gives_latest_once 7 listed batches hindices hfirst
  refine ⟨rfl, hkept ⟨?_, ?_⟩, rfl⟩
  · exact List.cons_ne_nil _ _
  · show (1, 0) ∉ [(1, 1)]
    decide

end NameCache

end CameraRecorder
