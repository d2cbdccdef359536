import LpacEspidf.Http.Response
import LpacEspidf.Http.Session

/-!
# Where every block goes

A block the driver allocates is `certs_buf`, or a response buffer of one `transmit`.  The code can
lose a response buffer in two ways: a failed `realloc` sets `output_buffer` to `NULL` while the old
block is still allocated, and a `transmit` whose chunks are all empty returns without handing over
the buffer it allocated, whose pointer the next `transmit` overwrites.

Without either, that is when every `HTTP_EVENT_ON_DATA` carries data and gets its allocation, no
block is lost.  During one `transmit` the only block of its own still live is `output_buffer`
(`Tracked`, kept by every event), so when it returns the only one is the response it hands over
(`transmit_own_blocks`).  Over a lifetime every block allocated since boot and still live is
`certs_buf` or a response handed to the caller (`Accounted`), and after `fini` only the caller's
responses are left (`lifetime_no_leak`).
-/

set_option autoImplicit false

namespace LpacEspidf.Http

/-- What the handler holds after the chunks `D` of a `transmit` whose blocks are numbered from
`start` on, when every chunk carries data and gets its allocation: `output_len` counts every byte,
`output_buffer` is set once a byte has come, and it is the only block of the call still live. -/
structure Tracked (start : Nat) (D : List UInt8) (s : Driver) : Prop where
  counted : s.outputLen.toNat = D.length
  started : s.outputBuffer = none ↔ D = []
  own : ∀ p, start ≤ p → s.heap.live p = true → s.outputBuffer = some p

section Chunk

variable {start : Nat} {D : List UInt8} {s : Driver} (t : Tracked start D s) (d : List UInt8)
  (carries : d ≠ []) (fits : D.length + d.length + 1 < 2 ^ 32)
include t carries fits

theorem tracked_onData_first (empty : s.outputBuffer = none) :
    Tracked start (D ++ d) ((httpEventHandler (.onData d true)).run s).2 := by
  have nothing : D = [] := t.started.mp empty
  subst nothing
  rw [httpEventHandler_onData_first d true s empty, if_pos rfl]
  refine ⟨zero_add_length d (by omega), ⟨Option.noConfusion,
    fun none_came => absurd (List.append_eq_nil.mp none_came).2 carries⟩, fun p above alive => ?_⟩
  dsimp only at alive ⊢
  rw [live_memcpy, Heap.live_allocate] at alive
  rcases alive with rfl | before
  · rfl
  · exact absurd ((t.own p above before).symm.trans empty) (Option.some_ne_none p)

theorem tracked_onData_more (old : Nat) (full : s.outputBuffer = some old) :
    Tracked start (D ++ d) ((httpEventHandler (.onData d true)).run s).2 := by
  rw [httpEventHandler_onData_more d true s old full, if_pos rfl]
  refine ⟨?_, ⟨Option.noConfusion, fun none_came => absurd (List.append_eq_nil.mp none_came).2 carries⟩,
    fun p above alive => ?_⟩
  · show (s.outputLen + d.length.toUInt32).toNat = (D ++ d).length
    rw [toNat_add_length _ _ (by rw [t.counted]; omega), t.counted, List.length_append]
  · dsimp only at alive ⊢
    rw [live_memcpy, live_realloc] at alive
    rcases alive with rfl | ⟨moved, before⟩
    · rfl
    · exact absurd (Option.some.inj ((t.own p above before).symm.trans full)) moved

end Chunk

theorem httpEventHandler_tracked (e : HttpEvent) {start : Nat} {D : List UInt8} {s : Driver}
    (t : Tracked start D s) (clean : ∀ d ok, e = .onData d ok → d ≠ [] ∧ ok = true)
    (fits : (D ++ e.chunk).length + 1 < 2 ^ 32) :
    Tracked start (D ++ e.chunk) ((httpEventHandler e).run s).2 := by
  cases e with
  | onData d ok =>
    obtain ⟨carries, rfl⟩ := clean d ok rfl
    rw [HttpEvent.chunk, List.length_append] at fits
    rcases full : s.outputBuffer with _ | old
    · exact tracked_onData_first t d carries fits full
    · exact tracked_onData_more t d carries fits old full
  | _ => exact (List.append_nil D).symm ▸ t

theorem dispatch_tracked (events : List HttpEvent) {start : Nat} {D : List UInt8} {s : Driver}
    (t : Tracked start D s) (clean : ∀ d ok, HttpEvent.onData d ok ∈ events → d ≠ [] ∧ ok = true)
    (fits : (D ++ body events).length + 1 < 2 ^ 32) :
    Tracked start (D ++ body events)
      ((events.forM fun e => discard (httpEventHandler e)).run s).2 := by
  induction events generalizing D s with
  | nil => exact (List.append_nil D).symm ▸ t
  | cons e events ih =>
    have within : (D ++ e.chunk).length + 1 < 2 ^ 32 := by
      simp only [body, List.length_append] at fits ⊢
      omega
    rw [forM_handler_cons, body, ← List.append_assoc]
    exact ih (httpEventHandler_tracked e t (fun d ok same => clean d ok (same ▸ List.mem_cons_self _ _))
      within) (fun d ok member => clean d ok (List.mem_cons_of_mem _ member))
      (by rw [List.append_assoc]; exact fits)

theorem collectResponse_tracked (err : Int) (status : UInt32) {start : Nat} {D : List UInt8}
    {s : Driver} (t : Tracked start D s) (p : Nat) (above : start ≤ p)
    (alive : ((collectResponse err status).run s).2.heap.live p = true) :
    ((collectResponse err status).run s).1.2.rx = some p := by
  /- The paths that free `output_buffer` leave no block of the call. -/
  have freed : (free s.outputBuffer s.heap).2.live p = true → False := fun alive =>
    have ⟨before, other⟩ := live_of_live_free s.heap p _ alive
    other (t.own p above before)
  by_cases lost : s.outputLen ≠ s.receiveLen
  · rw [collectResponse_lost err status s lost] at alive
    exact (freed alive).elim
  have same : s.outputLen = s.receiveLen := not_not.mp lost
  by_cases failed : err ≠ espOk
  · rw [collectResponse_failed err status s same failed] at alive
    exact (freed alive).elim
  rw [not_not] at failed
  subst failed
  rcases full : s.outputBuffer with _ | q
  · rw [collectResponse_empty status s same (.inl full)] at alive
    exact absurd ((t.own p above alive).symm.trans full) (Option.some_ne_none p)
  by_cases positive : 0 < s.outputLen
  · rw [collectResponse_body status s same q full positive] at alive ⊢
    dsimp only at alive ⊢
    rw [live_memcpy] at alive
    exact full.symm.trans (t.own p above alive)
  · /- `output_len` is 0, so no byte came and `output_buffer` was never set. -/
    have nothing : D = [] := List.eq_nil_of_length_eq_zero (t.counted ▸ Nat.eq_zero_of_not_pos positive)
    exact absurd (t.started.mpr nothing) (by rw [full]; exact Option.some_ne_none q)

theorem transmit_own_blocks (url : List UInt8) (tx : Option (List UInt8)) (txLen : UInt32)
    (h : List (List UInt8)) (server : Request → Exchange) (s : Driver)
    (clean : ∀ d ok, HttpEvent.onData d ok ∈ (server (request url tx txLen h s)).events →
      d ≠ [] ∧ ok = true)
    (fits : (body (server (request url tx txLen h s)).events).length + 1 < 2 ^ 32) (p : Nat)
    (above : s.heap.next ≤ p) (alive : ((transmit url tx txLen h server).run s).2.heap.live p = true) :
    ((transmit url tx txLen h server).run s).1.2.rx = some p := by
  rw [transmit_run] at alive ⊢
  have start : Tracked s.heap.next [] { s with outputBuffer := none, outputLen := 0, receiveLen := 0 } :=
    ⟨rfl, ⟨fun _ => rfl, fun _ => rfl⟩, fun q above alive =>
      absurd (Heap.lt_next_of_live s.heap q alive) (Nat.not_lt.mpr above)⟩
  have t := dispatch_tracked _ start clean fits
  exact collectResponse_tracked _ _ t p above alive

/-! ## Over a lifetime -/

/-- A call under which the driver loses no block: a `transmit` whose server, for every request,
sends only chunks that carry data and get their allocation, a body that fits `uint32_t`; or a
release. -/
def Call.Clean : Call → Prop
  | .transmit _ _ _ _ server => ∀ r, (body (server r).events).length + 1 < 2 ^ 32 ∧
      ∀ d ok, HttpEvent.onData d ok ∈ (server r).events → d ≠ [] ∧ ok = true
  | .release _ => True

/-- Every block allocated from `boot` on and still live is `certs_buf` or a response handed to the
caller. -/
def Accounted (boot : Nat) (st : Driver × Caller) : Prop :=
  ∀ p, boot ≤ p → st.1.heap.live p = true → st.1.certsBuf = some p ∨ p ∈ st.2.handed

theorem step_accounted (call : Call) (clean : call.Clean) (boot : Nat) (st : Driver × Caller)
    (accounted : Accounted boot st) : Accounted boot (call.step st) := by
  obtain ⟨s, k⟩ := st
  cases call with
  | transmit url tx txLen h server =>
    intro p above alive
    rw [step_transmit] at alive ⊢
    have fresh := transmit_fresh url tx txLen h server s
    by_cases older : p < s.heap.next
    · have before : s.heap.live p = true := by
        rw [Heap.live, ← transmit_keeps_older_blocks url tx txLen h server s p older]
        exact alive
      rcases accounted p above before with certs | handed
      · exact .inl (fresh.certs.trans certs)
      · exact .inr (List.mem_append_left _ handed)
    · have rx := transmit_own_blocks url tx txLen h server s (clean _).2 (clean _).1 p
        (Nat.not_lt.mp older) alive
      exact .inr (List.mem_append_right _ (Option.mem_toList.mpr rx))
  | release rx =>
    intro p above alive
    exact accounted p above (live_of_live_free s.heap p rx alive).1

theorem session_accounted (calls : List Call) (clean : ∀ call ∈ calls, call.Clean) (boot : Nat)
    (st : Driver × Caller) (accounted : Accounted boot st) : Accounted boot (session calls st) := by
  induction calls generalizing st with
  | nil => exact accounted
  | cons call calls ih =>
    exact ih (fun c member => clean c (List.mem_cons_of_mem _ member)) _
      (step_accounted call (clean call (List.mem_cons_self _ _)) boot st accounted)

theorem espidfHttpinterfaceInit_accounted (heap : Heap) (mountOk : Bool)
    (file : Option (List UInt8)) (mallocOk : Bool) :
    Accounted heap.next (((espidfHttpinterfaceInit mountOk file mallocOk).run (Driver.boot heap)).2,
      ⟨[], none⟩) := by
  intro p above alive
  have unallocated : heap.live p = true → False := fun before =>
    absurd (Heap.lt_next_of_live heap p before) (Nat.not_lt.mpr above)
  cases mountOk
  · exact (unallocated alive).elim
  cases file with
  | none => exact (unallocated alive).elim
  | some F =>
    cases mallocOk
    · exact (unallocated alive).elim
    · change (memcpy heap.next 0 (F ++ [0]) (heap.allocate _)).2.live p = true at alive
      rw [live_memcpy, Heap.live_allocate] at alive
      rcases alive with rfl | before
      · exact .inl rfl
      · exact (unallocated before).elim

/-- Over every lifetime in which each `transmit`'s chunks carry data and get their allocations and
its body fits `uint32_t`, whatever the mount, the file, the `init` allocation and the caller's
releases: after `fini`, every block allocated since boot that is still live is a response that was
handed to the caller.  The driver keeps none of its own. -/
theorem lifetime_no_leak (heap : Heap) (mountOk : Bool) (file : Option (List UInt8))
    (mallocOk : Bool) (calls : List Call) (clean : ∀ call ∈ calls, call.Clean) (p : Nat)
    (above : heap.next ≤ p)
    (alive : (espidfHttpinterfaceFini.run (lifetime heap mountOk file mallocOk calls).1).2.heap.live p =
      true) :
    p ∈ (lifetime heap mountOk file mallocOk calls).2.handed := by
  have accounted := session_accounted calls clean heap.next _
    (espidfHttpinterfaceInit_accounted heap mountOk file mallocOk)
  rw [espidfHttpinterfaceFini_heap] at alive
  obtain ⟨afterBuffer, notCerts⟩ := live_of_live_free _ p _ alive
  obtain ⟨before, -⟩ := live_of_live_free _ p _ afterBuffer
  exact (accounted p above before).resolve_left notCerts

/-- The file `-` loaded, the body `OK`, then an empty answer: `fini` frees `certs_buf`, and the
response, block 1, is left to the caller. -/
theorem lifetime_no_leak_ok :
    (∀ call ∈ [Call.transmit [] none 0 [] fun _ => ⟨[.onData [0x4F, 0x4B] true], espOk, 200⟩,
        .transmit [] none 0 [] fun _ => ⟨[], espOk, 204⟩], call.Clean) ∧
      Heap.empty.next ≤ 1 ∧
      (espidfHttpinterfaceFini.run (lifetime .empty true (some [0x2D]) true
        [.transmit [] none 0 [] fun _ => ⟨[.onData [0x4F, 0x4B] true], espOk, 200⟩,
          .transmit [] none 0 [] fun _ => ⟨[], espOk, 204⟩]).1).2.heap.live 1 = true ∧
      1 ∈ (lifetime .empty true (some [0x2D]) true
        [.transmit [] none 0 [] fun _ => ⟨[.onData [0x4F, 0x4B] true], espOk, 200⟩,
          .transmit [] none 0 [] fun _ => ⟨[], espOk, 204⟩]).2.handed :=
  have clean : ∀ call ∈ [Call.transmit [] none 0 [] fun _ => ⟨[.onData [0x4F, 0x4B] true], espOk, 200⟩,
      .transmit [] none 0 [] fun _ => ⟨[], espOk, 204⟩], call.Clean := by
    intro call member
    rcases List.mem_cons.mp member with rfl | member
    · exact fun _ => ⟨(by decide : (body [.onData [0x4F, 0x4B] true]).length + 1 < 2 ^ 32),
        fun d ok member => by
          rw [List.mem_singleton, HttpEvent.onData.injEq] at member
          rw [member.1, member.2]
          exact ⟨by decide, rfl⟩⟩
    · rw [List.mem_singleton.mp member]
      exact fun _ => ⟨(by decide : (body []).length + 1 < 2 ^ 32),
        fun _ _ member => absurd member (List.not_mem_nil _)⟩
  have alive : (espidfHttpinterfaceFini.run (lifetime .empty true (some [0x2D]) true
      [.transmit [] none 0 [] fun _ => ⟨[.onData [0x4F, 0x4B] true], espOk, 200⟩,
        .transmit [] none 0 [] fun _ => ⟨[], espOk, 204⟩]).1).2.heap.live 1 = true := by decide
  ⟨clean, by decide, alive,
    lifetime_no_leak .empty true (some [0x2D]) true _ clean 1 (by decide) alive⟩

end LpacEspidf.Http
