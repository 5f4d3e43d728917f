import CameraRecorder.Lane.CellPool
import Mathlib.Data.List.Nodup
import Mathlib.Data.List.Perm.Basic

/-!
# What acquiring and releasing do to a pool

Acquiring hands out the first free cell and releasing takes a cell in flight back. Either touches
that one cell only. The free list covers exactly the vacant cells, each once (`Sound`), whatever
cells are asked for; with the cells in flight it makes up all cells (`Sound.cover`).
-/

namespace CameraRecorder.CellPool

variable {α : Type} {p q : CellPool α} {a : α} {id : Nat}

/-! ## One cell at a time -/

theorem content?_set (p : CellPool α) (id j : Nat) (x : Option α) (free : List Nat) :
    ({ cells := p.cells.set id x, free } : CellPool α).content? j
      = if j = id ∧ id < p.capacity then x else p.content? j := by
  by_cases h : j = id
  · subst h
    by_cases hlt : j < p.cells.length
    · simp [content?, capacity, hlt]
    · simp [content?, capacity, hlt]
  · simp [content?, h, Ne.symm h]

theorem lt_capacity_of_content? (h : p.content? id = some a) : id < p.capacity := by
  by_contra hlt
  have : p.cells[id]? = none := List.getElem?_eq_none (by simpa [capacity] using hlt)
  simp [content?, this] at h

/-- What acquiring does: the first free cell holds the value, and nothing else changes. -/
theorem acquire_eq_some (h : p.acquire a = some (id, q)) :
    p.free = id :: q.free ∧ q.capacity = p.capacity ∧
      ∀ j, q.content? j = if j = id ∧ id < p.capacity then some a else p.content? j := by
  have hcap := capacity_of_acquire h
  unfold acquire at h
  split at h
  · cases h
  · rename_i hfree
    cases h
    exact ⟨hfree, hcap, fun j => content?_set ..⟩

theorem acquire_eq_none_iff : p.acquire a = none ↔ p.free = [] := by
  unfold acquire
  split <;> simp_all

/-- What releasing does: the cell is vacant and first on the free list, and nothing else
changes. -/
theorem release_eq_some (h : p.release id = some (a, q)) :
    p.content? id = some a ∧ q.free = id :: p.free ∧ q.capacity = p.capacity ∧
      ∀ j, q.content? j = if j = id then none else p.content? j := by
  have hcap := capacity_of_release h
  obtain ⟨b, hb, h⟩ := Option.map_eq_some_iff.mp h
  cases h
  refine ⟨hb, rfl, hcap, fun j => ?_⟩
  rw [content?_set]
  simp [lt_capacity_of_content? hb]

theorem release_eq_none_iff : p.release id = none ↔ p.content? id = none := by
  simp [release]

theorem exists_release (h : p.content? id = some a) : ∃ q, p.release id = some (a, q) := by
  simp [release, h]

/-- The cells in flight. -/
def inFlight (p : CellPool α) : List Nat :=
  (List.range p.capacity).filter fun id => (p.content? id).isSome

theorem mem_inFlight_iff : id ∈ p.inFlight ↔ ∃ a, p.content? id = some a := by
  rw [inFlight, List.mem_filter, List.mem_range, Option.isSome_iff_exists]
  refine ⟨And.right, fun h => ⟨?_, h⟩⟩
  obtain ⟨a, ha⟩ := h
  exact lt_capacity_of_content? ha

theorem nodup_inFlight (p : CellPool α) : p.inFlight.Nodup := List.nodup_range.filter _

/-! ## The free list covers the vacant cells -/

/-- The free list names every vacant cell once, and no other. -/
structure Sound (p : CellPool α) : Prop where
  nodup : p.free.Nodup
  mem_free_iff : ∀ id, id ∈ p.free ↔ id < p.capacity ∧ p.content? id = none

theorem sound_create (n : Nat) : (create n : CellPool α).Sound where
  nodup := List.nodup_range
  mem_free_iff id := by rw [content?_create, capacity_create]; simp [create]

theorem Sound.acquire (hp : p.Sound) (h : p.acquire a = some (id, q)) : q.Sound := by
  obtain ⟨hfree, hcap, hcontent⟩ := acquire_eq_some h
  have hnodup : id ∉ q.free ∧ q.free.Nodup := by
    simpa [hfree] using hp.nodup
  refine ⟨hnodup.2, fun j => ?_⟩
  have hid : id < p.capacity := ((hp.mem_free_iff id).mp (by simp [hfree])).1
  have hj := hp.mem_free_iff j
  rw [hcap, hcontent j]
  by_cases hji : j = id
  · subst hji
    simp [hid, hnodup.1]
  · simpa [hfree, hji] using hj

theorem Sound.release (hp : p.Sound) (h : p.release id = some (a, q)) : q.Sound := by
  obtain ⟨hid, hfree, hcap, hcontent⟩ := release_eq_some h
  have hnot : id ∉ p.free := fun hmem => by simp [((hp.mem_free_iff id).mp hmem).2] at hid
  refine ⟨by simpa [hfree] using ⟨hnot, hp.nodup⟩, fun j => ?_⟩
  rw [hfree, hcap, hcontent j]
  by_cases hji : j = id
  · subst hji
    simp [lt_capacity_of_content? hid]
  · simpa [hji] using hp.mem_free_iff j

/-- Every cell is on the free list or in flight, and none is both. -/
theorem Sound.cover (hp : p.Sound) : (p.free ++ p.inFlight).Perm (List.range p.capacity) := by
  have hdisj : p.free.Disjoint p.inFlight := by
    intro id hfree hid
    obtain ⟨a, ha⟩ := mem_inFlight_iff.mp hid
    rw [((hp.mem_free_iff id).mp hfree).2] at ha
    cases ha
  -- no cell is named twice, so it is enough to compare members
  refine (List.perm_ext_iff_of_nodup (hp.nodup.append p.nodup_inFlight hdisj)
    List.nodup_range).mpr fun id => ?_
  rw [List.mem_append, List.mem_range, hp.mem_free_iff, mem_inFlight_iff]
  constructor
  · rintro (⟨hlt, -⟩ | ⟨a, ha⟩)
    · exact hlt
    · exact lt_capacity_of_content? ha
  · intro hlt
    cases hid : p.content? id with
    | none => exact .inl ⟨hlt, rfl⟩
    | some a => exact .inr ⟨a, rfl⟩

/-- Counted as in flight are the cells that are. -/
theorem Sound.stats_eq (hp : p.Sound) :
    p.stats = ⟨p.capacity, p.free.length, p.inFlight.length⟩ := by
  have hlength := hp.cover.length_eq
  rw [List.length_append, List.length_range] at hlength
  rw [stats]
  congr 1
  omega

end CameraRecorder.CellPool
