import LpacEspidf.Http.Response
import LpacEspidf.Http.Session

/-!
# `transmit` keeps the heap defined

`transmit` allocates `output_buffer`, grows it chunk by chunk, writes each chunk into it,
terminates it and frees it on failure.  Each of these is defined when the block is live and the
write within it, and `Sized D s` says they are: after the chunks `D`, `output_buffer` is `NULL` or a
live block exactly one byte longer than `output_len`.  Every event and every allocation outcome keeps
it (`httpEventHandler_sized`), so a whole `perform` does (`dispatch_sized`), and the end of
`transmit` then writes the terminator inside the block and frees only that block
(`collectResponse_sound`).

The one assumption is that the response fits `uint32_t`: `output_len + data_len + 1`, the size
passed to `realloc`, is computed modulo 2^32, and past that the block is smaller than the write.

Over a lifetime the caller frees responses too.  When it frees only what it holds (`NULL`, or a
response handed to it and not freed since), and `init` could allocate `certs_buf`, every block the
caller holds stays live and the heap stays defined up to `fini` (`lifetime_heap_sound`).
-/

set_option autoImplicit false

namespace LpacEspidf.Http

/-- The heap is defined, and `output_buffer`, when set, is a live block one byte longer than
`output_len`, which counts at most the chunks `D`. -/
structure Sized (D : List UInt8) (s : Driver) : Prop where
  sound : s.heap.corrupted = false
  kept : s.outputLen.toNat ≤ D.length
  buffer : ∀ p, s.outputBuffer = some p →
    ∃ v, s.heap.blocks.lookup p = some v ∧ v.length = s.outputLen.toNat + 1

section Chunk

variable {D : List UInt8} {s : Driver} (g : Sized D s) (d : List UInt8)
  (fits : D.length + d.length + 1 < 2 ^ 32)
include g fits

theorem sized_onData_first (empty : s.outputBuffer = none) (ok : Bool) :
    Sized (D ++ d) ((httpEventHandler (.onData d ok)).run s).2 := by
  rw [httpEventHandler_onData_first d ok s empty]
  cases ok
  · rw [if_neg Bool.false_ne_true]
    exact ⟨g.sound, Nat.zero_le _, fun p got => absurd (got.symm.trans empty) (Option.some_ne_none p)⟩
  rw [if_pos rfl]
  have first := zero_add_length d (by omega)
  have fresh := s.heap.lookup_allocate_self (List.replicate (d.length + 1) 0)
  have inside : 0 + d.length ≤ (List.replicate (d.length + 1) (0 : UInt8)).length := by simp
  refine ⟨?_, by dsimp only; rw [first, List.length_append]; omega, fun p got => ?_⟩
  · exact (memcpy_corrupted_of_fits _ _ _ _ _ fresh inside).trans g.sound
  · cases got
    refine ⟨_, lookup_memcpy_self _ _ _ _ _ fresh inside, ?_⟩
    rw [length_write _ _ _ inside, List.length_replicate, first]

theorem sized_onData_more (old : Nat) (full : s.outputBuffer = some old) (ok : Bool) :
    Sized (D ++ d) ((httpEventHandler (.onData d ok)).run s).2 := by
  have kept := g.kept
  have len := List.length_append D d
  obtain ⟨v, found, size⟩ := g.buffer old full
  rw [httpEventHandler_onData_more d ok s old full]
  cases ok
  · rw [if_neg Bool.false_ne_true]
    exact ⟨g.sound, by dsimp only; omega, fun p got => absurd got (Option.noConfusion)⟩
  rw [if_pos rfl]
  have more : (s.outputLen + d.length.toUInt32).toNat = s.outputLen.toNat + d.length :=
    toNat_add_length _ _ (by omega)
  have grown : (s.outputLen + d.length.toUInt32 + 1).toNat = s.outputLen.toNat + d.length + 1 := by
    show ((s.outputLen + d.length.toUInt32).toNat + 1 % 2 ^ 32) % 2 ^ 32 = _
    rw [more]
    omega
  have moved := lookup_realloc_self old (s.outputLen + d.length.toUInt32 + 1).toNat s.heap
  have inside : s.outputLen.toNat + d.length ≤
      ((s.heap.bytesAt old).take (s.outputLen + d.length.toUInt32 + 1).toNat ++
        List.replicate ((s.outputLen + d.length.toUInt32 + 1).toNat -
          (s.heap.bytesAt old).length) 0).length := by
    rw [length_resize, grown]
    omega
  refine ⟨?_, by dsimp only; omega, fun p got => ?_⟩
  · exact (memcpy_corrupted_of_fits _ _ _ _ _ moved inside).trans g.sound
  · cases got
    refine ⟨_, lookup_memcpy_self _ _ _ _ _ moved inside, ?_⟩
    rw [length_write _ _ _ inside, length_resize, grown, more]

end Chunk

theorem httpEventHandler_sized (e : HttpEvent) {D : List UInt8} {s : Driver} (g : Sized D s)
    (fits : (D ++ e.chunk).length + 1 < 2 ^ 32) :
    Sized (D ++ e.chunk) ((httpEventHandler e).run s).2 := by
  cases e with
  | onData d ok =>
    rw [HttpEvent.chunk, List.length_append] at fits
    rcases full : s.outputBuffer with _ | old
    · exact sized_onData_first g d fits full ok
    · exact sized_onData_more g d fits old full ok
  | _ => exact (List.append_nil D).symm ▸ g

theorem dispatch_sized (events : List HttpEvent) {D : List UInt8} {s : Driver} (g : Sized D s)
    (fits : (D ++ body events).length + 1 < 2 ^ 32) :
    Sized (D ++ body events) ((events.forM fun e => discard (httpEventHandler e)).run s).2 := by
  induction events generalizing D s with
  | nil => exact (List.append_nil D).symm ▸ g
  | cons e events ih =>
    have within : (D ++ e.chunk).length + 1 < 2 ^ 32 := by
      simp only [body, List.length_append] at fits ⊢
      omega
    rw [forM_handler_cons, body, ← List.append_assoc]
    exact ih (httpEventHandler_sized e g within) (by rw [List.append_assoc]; exact fits)

theorem collectResponse_sound (err : Int) (status : UInt32) {D : List UInt8} {s : Driver}
    (g : Sized D s) : ((collectResponse err status).run s).2.heap.corrupted = false := by
  rcases collectResponse_cases err status s with ⟨-, freed | kept⟩ | ⟨p, full, -, handed⟩
  · rw [freed]
    rcases buffer : s.outputBuffer with _ | p
    · exact g.sound
    · obtain ⟨v, found, -⟩ := g.buffer p buffer
      exact (free_corrupted_of_live p _ v found).trans g.sound
  · rw [kept]
    exact g.sound
  · obtain ⟨v, found, size⟩ := g.buffer p full
    rw [handed]
    exact (memcpy_corrupted_of_fits _ _ _ _ _ found (by simp only [List.length_singleton]; omega)).trans
      g.sound

theorem perform_sized (url : List UInt8) (tx : Option (List UInt8)) (txLen : UInt32)
    (h : List (List UInt8)) (server : Request → Exchange) (s : Driver)
    (sound : s.heap.corrupted = false)
    (fits : (body (server (request url tx txLen h s)).events).length + 1 < 2 ^ 32) :
    Sized (body (server (request url tx txLen h s)).events)
      ((espHttpClientPerform (server (request url tx txLen h s))).run
        { s with outputBuffer := none, outputLen := 0, receiveLen := 0 }).2 :=
  dispatch_sized _ (D := []) ⟨sound, Nat.zero_le _, fun _ got => absurd got Option.noConfusion⟩ fits

/-- For every state with a defined heap, every request and every server whose response fits
`uint32_t`, whatever the events and whichever allocations fail, `transmit` leaves the heap
defined: it frees only live blocks and writes only within them. -/
theorem transmit_heap_sound (url : List UInt8) (tx : Option (List UInt8)) (txLen : UInt32)
    (h : List (List UInt8)) (server : Request → Exchange) (s : Driver)
    (sound : s.heap.corrupted = false)
    (fits : (body (server (request url tx txLen h s)).events).length + 1 < 2 ^ 32) :
    ((transmit url tx txLen h server).run s).2.heap.corrupted = false := by
  rw [transmit_run]
  exact collectResponse_sound _ _ (perform_sized url tx txLen h server s sound fits)

/-- The body `OK`, then a chunk whose `realloc` fails: the lost data is detected and the buffer
freed, once. -/
theorem transmit_heap_sound_lost :
    ((transmit [] none 0 [] fun _ => ⟨[.onData [0x4F, 0x4B] true, .onData [0x21] false], espOk, 200⟩).run
        (Driver.boot .empty)).2.heap.corrupted = false :=
  transmit_heap_sound [] none 0 []
    (fun _ => ⟨[.onData [0x4F, 0x4B] true, .onData [0x21] false], espOk, 200⟩) (Driver.boot .empty)
    rfl (by decide)

theorem transmit_rx_live (url : List UInt8) (tx : Option (List UInt8)) (txLen : UInt32)
    (h : List (List UInt8)) (server : Request → Exchange) (s : Driver)
    (sound : s.heap.corrupted = false)
    (fits : (body (server (request url tx txLen h s)).events).length + 1 < 2 ^ 32) (p : Nat)
    (handed : ((transmit url tx txLen h server).run s).1.2.rx = some p) :
    ((transmit url tx txLen h server).run s).2.heap.live p = true := by
  have g := perform_sized url tx txLen h server s sound fits
  rw [transmit_run] at handed ⊢
  rcases collectResponse_cases (server (request url tx txLen h s)).err
      (server (request url tx txLen h s)).status _ with ⟨none_handed, -⟩ | ⟨q, full, rx, after⟩
  · rw [none_handed] at handed
    cases handed
  · rw [rx, Option.some.injEq] at handed
    subst handed
    obtain ⟨v, found, size⟩ := g.buffer q full
    rw [after, Heap.live, lookup_memcpy_self q _ [0] _ v found (by rw [List.length_singleton]; omega)]
    rfl

/-! ## Over a lifetime -/

def Call.released : Call → List Nat
  | .transmit .. => []
  | .release rx => rx.toList

/-- What the driver may expect of a call in the state `st`, the caller having freed `freed`: a
server whose responses fit `uint32_t`, or the release of `NULL` or of a response the caller holds. -/
def Call.Allowed (st : Driver × Caller) (freed : List Nat) : Call → Prop
  | .transmit _ _ _ _ server => ∀ r, (body (server r).events).length + 1 < 2 ^ 32
  | .release rx => ∀ p, rx = some p → p ∈ st.2.handed ∧ p ∉ freed

/-- Every call of the sequence is allowed in the state it is made in. -/
def Disciplined : List Call → Driver × Caller → List Nat → Prop
  | [], _, _ => True
  | call :: calls, st, freed =>
      call.Allowed st freed ∧ Disciplined calls (call.step st) (freed ++ call.released)

/-- Between calls: the heap is defined and every response the caller holds is live. -/
structure Defined (freed : List Nat) (st : Driver × Caller) : Prop where
  owned : Owned st
  sound : st.1.heap.corrupted = false
  held : ∀ p ∈ st.2.handed, p ∉ freed → st.1.heap.live p = true

section Steps

variable {freed : List Nat} {s : Driver} {k : Caller}

theorem transmit_defined (url : List UInt8) (tx : Option (List UInt8)) (txLen : UInt32)
    (h : List (List UInt8)) (server : Request → Exchange)
    (fits : ∀ r, (body (server r).events).length + 1 < 2 ^ 32) (d : Defined freed (s, k)) :
    Defined freed ((Call.transmit url tx txLen h server).step (s, k)) := by
  refine ⟨transmit_owned s k url tx txLen h server d.owned, ?_, fun p handed notFreed => ?_⟩
  · rw [step_transmit, transmit_run]
    exact collectResponse_sound _ _ (perform_sized url tx txLen h server s d.sound (fits _))
  rw [step_transmit] at handed ⊢
  rcases List.mem_append.mp handed with old | this
  · rw [Heap.live, transmit_keeps_older_blocks url tx txLen h server s p
      (d.owned.handed_lt p old)]
    exact d.held p old notFreed
  · exact transmit_rx_live url tx txLen h server s d.sound (fits _) p (Option.mem_toList.mp this)

theorem release_defined (rx : Option Nat) (allowed : ∀ p, rx = some p → p ∈ k.handed ∧ p ∉ freed)
    (d : Defined freed (s, k)) :
    Defined (freed ++ rx.toList) ((Call.release rx).step (s, k)) := by
  refine ⟨release_owned s k rx d.owned, ?_, fun q handed notFreed => ?_⟩
  · cases rx with
    | none => exact d.sound
    | some p =>
      obtain ⟨v, found⟩ := Option.isSome_iff_exists.mp (d.held p (allowed p rfl).1 (allowed p rfl).2)
      exact (free_corrupted_of_live p s.heap v found).trans d.sound
  · have other : rx ≠ some q := fun same => notFreed (by simp [same])
    show ((free rx s.heap).2.blocks.lookup q).isSome = true
    rw [lookup_free_of_ne q rx s.heap other]
    exact d.held q handed fun inFreed => notFreed (List.mem_append_left _ inFreed)

theorem step_defined (call : Call) (st : Driver × Caller) (freed : List Nat)
    (allowed : call.Allowed st freed) (d : Defined freed st) :
    Defined (freed ++ call.released) (call.step st) := by
  obtain ⟨s, k⟩ := st
  cases call with
  | transmit url tx txLen h server =>
    rw [Call.released, List.append_nil]
    exact transmit_defined url tx txLen h server allowed d
  | release rx => exact release_defined rx allowed d

end Steps

theorem session_defined (calls : List Call) (st : Driver × Caller) (freed : List Nat)
    (disciplined : Disciplined calls st freed) (d : Defined freed st) :
    Defined (freed ++ calls.flatMap Call.released) (session calls st) := by
  induction calls generalizing st freed with
  | nil => exact (List.append_nil freed).symm ▸ d
  | cons call calls ih =>
    rw [List.flatMap_cons, ← List.append_assoc]
    exact ih (call.step st) _ disciplined.2 (step_defined call st freed disciplined.1 d)

theorem espidfHttpinterfaceInit_sound (heap : Heap) (mountOk : Bool) (file : Option (List UInt8))
    (mallocOk : Bool) (sound : heap.corrupted = false) (allocates : file.isSome → mallocOk = true) :
    ((espidfHttpinterfaceInit mountOk file mallocOk).run (Driver.boot heap)).2.heap.corrupted =
      false := by
  cases mountOk
  · exact sound
  cases file with
  | none => exact sound
  | some F =>
    rw [allocates rfl]
    show (memcpy heap.next 0 (F ++ [0]) (heap.allocate _)).2.corrupted = false
    rw [memcpy_corrupted_of_fits heap.next 0 (F ++ [0]) _ _ (heap.lookup_allocate_self _) (by simp)]
    exact sound

/-- Over every lifetime whose `init` could allocate `certs_buf`, for every sequence of calls in
which each server's responses fit `uint32_t` and the caller frees only responses it holds, each
once: whatever the events and whichever allocations fail, the heap is defined up to `fini`, and
every response the caller was handed and has not freed is still a live block. -/
theorem lifetime_heap_sound (heap : Heap) (mountOk : Bool) (file : Option (List UInt8))
    (mallocOk : Bool) (calls : List Call) (sound : heap.corrupted = false)
    (allocates : file.isSome → mallocOk = true)
    (disciplined : Disciplined calls
      (((espidfHttpinterfaceInit mountOk file mallocOk).run (Driver.boot heap)).2, ⟨[], none⟩) []) :
    (lifetime heap mountOk file mallocOk calls).1.heap.corrupted = false ∧
      ∀ p ∈ (lifetime heap mountOk file mallocOk calls).2.handed,
        p ∉ calls.flatMap Call.released → (lifetime heap mountOk file mallocOk calls).1.heap.live p := by
  have d := session_defined calls _ [] disciplined
    ⟨lifetime_owned heap mountOk file mallocOk [],
      espidfHttpinterfaceInit_sound heap mountOk file mallocOk sound allocates, fun _ got => by cases got⟩
  rw [List.nil_append] at d
  exact ⟨d.sound, d.held⟩

/-- The file `-`, a `transmit` answered `OK`, and the caller releasing that response. -/
theorem lifetime_heap_sound_released :
    Disciplined [.transmit [] none 0 [] (fun _ => ⟨[.onData [0x4F, 0x4B] true], espOk, 200⟩),
        .release (some 1)]
      (((espidfHttpinterfaceInit true (some [0x2D]) true).run (Driver.boot .empty)).2, ⟨[], none⟩) [] ∧
    (lifetime .empty true (some [0x2D]) true
        [.transmit [] none 0 [] (fun _ => ⟨[.onData [0x4F, 0x4B] true], espOk, 200⟩),
          .release (some 1)]).1.heap.corrupted = false :=
  have disciplined : Disciplined
      [.transmit [] none 0 [] (fun _ => ⟨[.onData [0x4F, 0x4B] true], espOk, 200⟩), .release (some 1)]
      (((espidfHttpinterfaceInit true (some [0x2D]) true).run (Driver.boot .empty)).2, ⟨[], none⟩) [] :=
    ⟨fun _ => (by decide : (body [.onData [0x4F, 0x4B] true]).length + 1 < 2 ^ 32),
      fun p same => by cases same; exact ⟨by decide, by decide⟩, trivial⟩
  ⟨disciplined, (lifetime_heap_sound .empty true (some [0x2D]) true _ rfl (fun _ => rfl) disciplined).1⟩

end LpacEspidf.Http
