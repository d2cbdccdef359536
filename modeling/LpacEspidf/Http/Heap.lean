import Mathlib.Data.List.Basic

/-!
# The C heap

What `driver/http/espidf.c` does with `malloc`, `realloc`, `free` and `memcpy`, over a heap of
live blocks with their bytes.  A block is named by the allocation that made it, so a pointer that
was freed is never taken for a block allocated after it, whatever address the allocator gives.
Whether an allocation succeeds is an argument: every pattern of failures is a run.

Freeing what is not a live block, or writing past the end of one, is undefined behaviour; the heap
records it in `corrupted` and is otherwise left as it was.
-/

set_option autoImplicit false

namespace LpacEspidf.Http

structure Heap where
  /-- The live blocks, by allocation, with their bytes. -/
  blocks : List (Nat × List UInt8)
  /-- The allocation the next `malloc` or `realloc` makes. -/
  next : Nat
  /-- Undefined behaviour has happened: a bad `free` or an out-of-bounds write. -/
  corrupted : Bool
  fresh : ∀ p ∈ blocks.map Prod.fst, p < next

namespace Heap

def empty : Heap := ⟨[], 0, false, fun _ member => absurd member (List.not_mem_nil _)⟩

def live (h : Heap) (p : Nat) : Bool := (h.blocks.lookup p).isSome

def bytesAt (h : Heap) (p : Nat) : List UInt8 := (h.blocks.lookup p).getD []

def allocate (h : Heap) (bytes : List UInt8) : Heap :=
  ⟨(h.next, bytes) :: h.blocks, h.next + 1, h.corrupted, by
    intro p member
    simp only [List.map_cons, List.mem_cons] at member
    rcases member with rfl | old
    · omega
    · have := h.fresh p old
      omega⟩

def release (h : Heap) (p : Nat) : Heap :=
  ⟨h.blocks.filter (·.1 ≠ p), h.next, h.corrupted, fun q member => h.fresh q (by
    simp only [List.mem_map, List.mem_filter] at member ⊢
    obtain ⟨entry, ⟨inside, -⟩, rfl⟩ := member
    exact ⟨entry, inside, rfl⟩)⟩

def corrupt (h : Heap) : Heap := { h with corrupted := true }

end Heap

/-- `malloc(size)`; `ok` is whether it succeeds. -/
def malloc (size : Nat) (ok : Bool) : StateM Heap (Option Nat) := fun h =>
  if ok then (some h.next, h.allocate (List.replicate size 0)) else (none, h)

/-- `realloc(p, size)`: on success a new block holding the old bytes, cut or padded to `size`, and
`p` released; on failure `NULL`, with `p` left as it was. -/
def realloc (p : Nat) (size : Nat) (ok : Bool) : StateM Heap (Option Nat) := fun h =>
  if ok then
    (some h.next, (h.release p).allocate ((h.bytesAt p).take size ++
      List.replicate (size - (h.bytesAt p).length) 0))
  else (none, h)

/-- `free(p)`: `free(NULL)` does nothing, freeing what is not live is undefined. -/
def free : Option Nat → StateM Heap Unit
  | none => pure ()
  | some p => fun h => ((), if h.live p then h.release p else h.corrupt)

/-- `memcpy(p + offset, bytes, n)` into a live block; out of its bounds it is undefined. -/
def memcpy (p offset : Nat) (bytes : List UInt8) : StateM Heap Unit := fun h =>
  ((), if h.live p ∧ offset + bytes.length ≤ (h.bytesAt p).length then
      ⟨h.blocks.map fun entry => if entry.1 = p then
          (p, entry.2.take offset ++ bytes ++ entry.2.drop (offset + bytes.length)) else entry,
        h.next, h.corrupted, fun q member => h.fresh q (by
          simp only [List.map_map, List.mem_map, Function.comp_def] at member ⊢
          obtain ⟨entry, inside, rfl⟩ := member
          exact ⟨entry, inside, by split <;> simp_all⟩)⟩
    else h.corrupt)

/-! ## What each operation does to the blocks -/

namespace Heap

variable (h : Heap) (p q : Nat)

theorem lookup_cons_of_ne {β : Type} (b : β) (l : List (Nat × β)) (ne : p ≠ q) :
    ((q, b) :: l).lookup p = l.lookup p := by
  simp only [List.lookup_cons, beq_false_of_ne ne]

@[simp]
theorem allocate_next (bytes : List UInt8) : (h.allocate bytes).next = h.next + 1 := rfl

@[simp]
theorem release_next : (h.release q).next = h.next := rfl

@[simp]
theorem corrupt_next : h.corrupt.next = h.next := rfl

@[simp]
theorem corrupt_blocks : h.corrupt.blocks = h.blocks := rfl

@[simp]
theorem lookup_allocate_self (bytes : List UInt8) :
    (h.allocate bytes).blocks.lookup h.next = some bytes := List.lookup_cons_self

theorem lookup_allocate_of_ne (bytes : List UInt8) (ne : p ≠ h.next) :
    (h.allocate bytes).blocks.lookup p = h.blocks.lookup p := lookup_cons_of_ne p h.next bytes _ ne

theorem lookup_filter_of_ne {β : Type} (l : List (Nat × β)) (ne : p ≠ q) :
    (l.filter (·.1 ≠ q)).lookup p = l.lookup p := by
  induction l with
  | nil => rfl
  | cons entry l ih =>
    obtain ⟨k, v⟩ := entry
    by_cases same : k = q
    · rw [List.filter_cons_of_neg (by simpa using same), ih, lookup_cons_of_ne p k v l (same ▸ ne)]
    · rw [List.filter_cons_of_pos (by simpa using same)]
      by_cases at_entry : p = k
      · rw [at_entry, List.lookup_cons_self, List.lookup_cons_self]
      · rw [lookup_cons_of_ne p k v _ at_entry, lookup_cons_of_ne p k v _ at_entry, ih]

theorem lookup_release_of_ne (ne : p ≠ q) : (h.release q).blocks.lookup p = h.blocks.lookup p :=
  lookup_filter_of_ne p q h.blocks ne

@[simp]
theorem lookup_release_self : (h.release p).blocks.lookup p = none :=
  List.lookup_eq_none_iff.mpr fun entry member => by
    have kept : entry.1 ≠ p := by simpa using (List.mem_filter.mp member).2
    simpa using kept.symm

@[simp]
theorem release_corrupted : (h.release p).corrupted = h.corrupted := rfl

end Heap

@[simp]
theorem malloc_next (size : Nat) (ok : Bool) (h : Heap) :
    (malloc size ok h).2.next = if ok then h.next + 1 else h.next := by
  cases ok <;> rfl

@[simp]
theorem realloc_next (p size : Nat) (ok : Bool) (h : Heap) :
    (realloc p size ok h).2.next = if ok then h.next + 1 else h.next := by
  cases ok <;> rfl

@[simp]
theorem free_next (p : Option Nat) (h : Heap) : (free p h).2.next = h.next := by
  cases p
  · rfl
  · simp only [free]
    split <;> rfl

@[simp]
theorem memcpy_next (p offset : Nat) (bytes : List UInt8) (h : Heap) :
    (memcpy p offset bytes h).2.next = h.next := by
  simp only [memcpy]
  split <;> rfl

theorem lookup_free_of_ne (p : Nat) (q : Option Nat) (h : Heap) (ne : q ≠ some p) :
    (free q h).2.blocks.lookup p = h.blocks.lookup p := by
  cases q with
  | none => rfl
  | some q =>
    simp only [free]
    split
    · exact h.lookup_release_of_ne p q fun same => ne (same ▸ rfl)
    · rfl

theorem free_corrupted (q : Option Nat) (h : Heap) (bad : h.corrupted = true) :
    (free q h).2.corrupted = true := by
  cases q with
  | none => exact bad
  | some q =>
    simp only [free]
    split
    · exact bad
    · rfl

theorem free_twice (p : Nat) (h : Heap) : (free (some p) (free (some p) h).2).2.corrupted = true := by
  by_cases live : h.live p
  · have gone : (h.release p).live p = false := by simp [Heap.live]
    simp only [free, live, if_true, gone, Bool.false_eq_true, if_false]
    rfl
  · exact free_corrupted _ _ (by simp only [free, live, Bool.false_eq_true, if_false]; rfl)

theorem malloc_some (size : Nat) (ok : Bool) (h : Heap) (q : Nat)
    (got : (malloc size ok h).1 = some q) : q = h.next := by
  cases ok <;> simp_all [malloc]

theorem realloc_some (p size : Nat) (ok : Bool) (h : Heap) (q : Nat)
    (got : (realloc p size ok h).1 = some q) : q = h.next := by
  cases ok <;> simp_all [realloc]

/-! ## Frames

Every operation of the driver on its own buffer leaves older blocks alone. -/

/-- `h'` comes from `h` by operations on blocks from `n` on: no block below `n` changed, and no
allocation was taken back. -/
structure Heap.KeepsBelow (n : Nat) (h h' : Heap) : Prop where
  next_le : h.next ≤ h'.next
  lookup_eq : ∀ p < n, h'.blocks.lookup p = h.blocks.lookup p

namespace Heap.KeepsBelow

variable {n : Nat} {h h' h'' : Heap}

theorem refl (n : Nat) (h : Heap) : KeepsBelow n h h := ⟨Nat.le_refl _, fun _ _ => rfl⟩

theorem trans (first : KeepsBelow n h h') (second : KeepsBelow n h' h'') : KeepsBelow n h h'' :=
  ⟨Nat.le_trans first.next_le second.next_le,
    fun p below => (second.lookup_eq p below).trans (first.lookup_eq p below)⟩

end Heap.KeepsBelow

section Frames

variable (n : Nat) (h : Heap)

theorem keepsBelow_corrupt : h.KeepsBelow n h.corrupt := ⟨Nat.le_refl _, fun _ _ => rfl⟩

theorem keepsBelow_allocate (bytes : List UInt8) (room : n ≤ h.next) :
    h.KeepsBelow n (h.allocate bytes) :=
  ⟨Nat.le_succ _, fun p below => h.lookup_allocate_of_ne p bytes (by omega)⟩

theorem keepsBelow_release (q : Nat) (above : n ≤ q) : h.KeepsBelow n (h.release q) :=
  ⟨Nat.le_refl _, fun p below => h.lookup_release_of_ne p q (by omega)⟩

theorem keepsBelow_malloc (size : Nat) (ok : Bool) (room : n ≤ h.next) :
    h.KeepsBelow n (malloc size ok h).2 := by
  cases ok
  · exact .refl n h
  · exact keepsBelow_allocate n h _ room

theorem keepsBelow_realloc (q size : Nat) (ok : Bool) (room : n ≤ h.next) (above : n ≤ q) :
    h.KeepsBelow n (realloc q size ok h).2 := by
  cases ok
  · exact .refl n h
  · exact (keepsBelow_release n h q above).trans (keepsBelow_allocate n _ _ room)

theorem keepsBelow_free (q : Option Nat) (above : ∀ p, q = some p → n ≤ p) :
    h.KeepsBelow n (free q h).2 := by
  cases q with
  | none => exact .refl n h
  | some q =>
    simp only [free]
    split
    · exact keepsBelow_release n h q (above q rfl)
    · exact keepsBelow_corrupt n h

theorem lookup_map_write_of_ne (p q : Nat) (f : List UInt8 → List UInt8)
    (l : List (Nat × List UInt8)) (ne : p ≠ q) :
    (l.map fun entry => if entry.1 = q then (q, f entry.2) else entry).lookup p = l.lookup p := by
  induction l with
  | nil => rfl
  | cons entry l ih =>
    obtain ⟨k, v⟩ := entry
    by_cases same : k = q
    · subst same
      rw [List.map_cons, if_pos rfl, Heap.lookup_cons_of_ne p k _ _ ne, ih,
        Heap.lookup_cons_of_ne p k _ _ ne]
    · rw [List.map_cons, if_neg same]
      by_cases at_entry : p = k
      · rw [at_entry, List.lookup_cons_self, List.lookup_cons_self]
      · rw [Heap.lookup_cons_of_ne p k v _ at_entry, Heap.lookup_cons_of_ne p k v _ at_entry, ih]

theorem keepsBelow_memcpy (q offset : Nat) (bytes : List UInt8) (above : n ≤ q) :
    h.KeepsBelow n (memcpy q offset bytes h).2 := by
  simp only [memcpy]
  split
  · exact ⟨Nat.le_refl _, fun p below => lookup_map_write_of_ne p q
      (fun v => v.take offset ++ bytes ++ v.drop (offset + bytes.length)) h.blocks (by omega)⟩
  · exact keepsBelow_corrupt n h

end Frames

/-! ## Contents

What `memcpy` and `realloc` leave in the block they write. -/

theorem lookup_map_write_self (q : Nat) (f : List UInt8 → List UInt8) (l : List (Nat × List UInt8)) :
    (l.map fun entry => if entry.1 = q then (q, f entry.2) else entry).lookup q =
      (l.lookup q).map f := by
  induction l with
  | nil => rfl
  | cons entry l ih =>
    obtain ⟨k, v⟩ := entry
    by_cases same : k = q
    · subst same
      rw [List.map_cons, if_pos rfl, List.lookup_cons_self, List.lookup_cons_self]
      rfl
    · rw [List.map_cons, if_neg same, Heap.lookup_cons_of_ne q k v _ (Ne.symm same), ih,
        Heap.lookup_cons_of_ne q k v _ (Ne.symm same)]

section Inside

variable (p offset : Nat) (bytes : List UInt8) (h : Heap) (v : List UInt8)
  (found : h.blocks.lookup p = some v) (fits : offset + bytes.length ≤ v.length)
include found fits

theorem memcpy_inside : h.live p ∧ offset + bytes.length ≤ (h.bytesAt p).length := by
  simp only [Heap.live, Heap.bytesAt, found, Option.isSome_some, Option.getD_some]
  exact ⟨trivial, fits⟩

theorem memcpy_corrupted_of_fits : (memcpy p offset bytes h).2.corrupted = h.corrupted := by
  simp only [memcpy, if_pos (memcpy_inside p offset bytes h v found fits)]

theorem lookup_memcpy_self :
    (memcpy p offset bytes h).2.blocks.lookup p =
      some (v.take offset ++ bytes ++ v.drop (offset + bytes.length)) := by
  simp only [memcpy, if_pos (memcpy_inside p offset bytes h v found fits)]
  rw [lookup_map_write_self p fun w => w.take offset ++ bytes ++ w.drop (offset + bytes.length), found]
  rfl

end Inside

theorem length_write (v bytes : List UInt8) (offset : Nat) (fits : offset + bytes.length ≤ v.length) :
    (v.take offset ++ bytes ++ v.drop (offset + bytes.length)).length = v.length := by
  simp only [List.length_append, List.length_take, List.length_drop]
  omega

theorem length_resize (v : List UInt8) (size : Nat) :
    (v.take size ++ List.replicate (size - v.length) 0).length = size := by
  simp only [List.length_append, List.length_take, List.length_replicate]
  omega

@[simp]
theorem malloc_corrupted (size : Nat) (ok : Bool) (h : Heap) :
    (malloc size ok h).2.corrupted = h.corrupted := by
  cases ok <;> rfl

@[simp]
theorem realloc_corrupted (p size : Nat) (ok : Bool) (h : Heap) :
    (realloc p size ok h).2.corrupted = h.corrupted := by
  cases ok <;> rfl

theorem free_corrupted_of_live (p : Nat) (h : Heap) (v : List UInt8)
    (found : h.blocks.lookup p = some v) : (free (some p) h).2.corrupted = h.corrupted := by
  simp only [free, Heap.live, found, Option.isSome_some, if_true]
  rfl

theorem lookup_realloc_self (p size : Nat) (h : Heap) :
    (realloc p size true h).2.blocks.lookup h.next =
      some ((h.bytesAt p).take size ++ List.replicate (size - (h.bytesAt p).length) 0) :=
  List.lookup_cons_self

theorem write_over_tail (D tail bytes : List UInt8) :
    (D ++ tail).take D.length ++ bytes ++ (D ++ tail).drop (D.length + bytes.length) =
      D ++ bytes ++ tail.drop bytes.length := by
  rw [List.take_left, List.drop_append]

/-! ## Which blocks are live -/

section Live

variable (h : Heap) (p q : Nat)

theorem mem_keys_of_lookup {β : Type} (l : List (Nat × β)) (v : β) (found : l.lookup p = some v) :
    p ∈ l.map Prod.fst := by
  induction l with
  | nil => cases found
  | cons entry l ih =>
    obtain ⟨k, w⟩ := entry
    by_cases same : p = k
    · exact same ▸ List.mem_cons_self _ _
    · rw [Heap.lookup_cons_of_ne p k w l same] at found
      exact List.mem_cons_of_mem _ (ih found)

theorem Heap.lt_next_of_live (alive : h.live p = true) : p < h.next :=
  have ⟨v, found⟩ := Option.isSome_iff_exists.mp alive
  h.fresh p (mem_keys_of_lookup p h.blocks v found)

theorem Heap.live_allocate (bytes : List UInt8) :
    (h.allocate bytes).live q = true ↔ q = h.next ∨ h.live q = true := by
  by_cases same : q = h.next
  · subst same
    simp only [Heap.live, lookup_allocate_self, Option.isSome_some, true_or]
  · simp only [Heap.live, lookup_allocate_of_ne h q bytes same, same, false_or]

theorem Heap.live_release : (h.release p).live q = true ↔ q ≠ p ∧ h.live q = true := by
  by_cases same : q = p
  · subst same
    simp only [Heap.live, lookup_release_self, Option.isSome_none, Bool.false_eq_true, ne_eq,
      not_true_eq_false, false_and]
  · simp only [Heap.live, lookup_release_of_ne h q p same, ne_eq, same, not_false_eq_true, true_and]

theorem live_memcpy (offset : Nat) (bytes : List UInt8) :
    (memcpy p offset bytes h).2.live q = h.live q := by
  simp only [memcpy]
  split
  · simp only [Heap.live]
    by_cases same : q = p
    · subst same
      rw [lookup_map_write_self q fun w => w.take offset ++ bytes ++ w.drop (offset + bytes.length),
        Option.isSome_map']
    · rw [lookup_map_write_of_ne q p (fun w => w.take offset ++ bytes ++ w.drop (offset + bytes.length))
        _ same]
  · rfl

theorem live_of_live_free (r : Option Nat) (alive : (free r h).2.live q = true) :
    h.live q = true ∧ r ≠ some q := by
  cases r with
  | none => exact ⟨alive, Option.noConfusion⟩
  | some p =>
    simp only [free] at alive
    split at alive
    · obtain ⟨other, before⟩ := (Heap.live_release h p q).mp alive
      exact ⟨before, fun same => other (Option.some.inj same).symm⟩
    · rename_i dead
      exact ⟨alive, fun same => dead (Option.some.inj same ▸ alive)⟩

theorem live_malloc (size : Nat) :
    (malloc size true h).2.live q = true ↔ q = h.next ∨ h.live q = true :=
  Heap.live_allocate h q _

theorem live_realloc (size : Nat) :
    (realloc p size true h).2.live q = true ↔ q = h.next ∨ q ≠ p ∧ h.live q = true := by
  rw [show (realloc p size true h).2 = (h.release p).allocate _ from rfl, Heap.live_allocate,
    Heap.live_release, Heap.release_next]

end Live

end LpacEspidf.Http
