import LpacEspidf.Http.Driver

/-!
# Sessions of the HTTP driver

The driver's lifetime: `espidf_httpinterface_init`, then any sequence of `transmit` calls and of the
caller releasing what it was given, then `espidf_httpinterface_fini`.  The caller's side records
every block handed over through `*rx`, and the latest `transmit`'s `*rx`.

Over every lifetime (`lifetime_owned`), `output_buffer` is `NULL`, a block never handed over, or the
latest response; `certs_buf` is never handed over; and every block handed over is older than any
later `transmit`, which therefore leaves it alone (`transmit_keeps_handed_blocks`).  So the only
caller block `fini` can free is the latest response (`espidfHttpinterfaceFini_frees_only_latest`),
and it does free it whenever that response had a body
(`espidfHttpinterfaceFini_frees_caller_buffer`).
-/

set_option autoImplicit false

namespace LpacEspidf.Http

/-- A call between `init` and `fini`: a `transmit`, or the caller releasing a response. -/
inductive Call where
  | transmit (url : List UInt8) (tx : Option (List UInt8)) (txLen : UInt32)
      (h : List (List UInt8)) (server : Request → Exchange)
  | release (rx : Option Nat)

/-- The blocks handed to the caller through `*rx`, in order, and the latest `transmit`'s `*rx`. -/
structure Caller where
  handed : List Nat
  latest : Option Nat
  deriving DecidableEq, Repr

def Call.step : Call → Driver × Caller → Driver × Caller
  | .transmit url tx txLen h server, (s, k) =>
    match (Http.transmit url tx txLen h server).run s with
    | ((_, reply), s') => (s', ⟨k.handed ++ reply.rx.toList, reply.rx⟩)
  | .release rx, (s, k) => (((releaseResponse rx).run s).2, k)

def session (calls : List Call) (start : Driver × Caller) : Driver × Caller :=
  calls.foldl (fun st call => call.step st) start

/-- The driver from boot through `init` and the caller's calls, up to `fini`. -/
def lifetime (heap : Heap) (mountOk : Bool) (file : Option (List UInt8)) (mallocOk : Bool)
    (calls : List Call) : Driver × Caller :=
  session calls (((espidfHttpinterfaceInit mountOk file mallocOk).run (Driver.boot heap)).2, ⟨[], none⟩)

/-- What holds between calls: the caller's blocks are older than the heap's next allocation,
`certs_buf` is not one of them, and `output_buffer` is one of them only as the latest response. -/
structure Owned (st : Driver × Caller) : Prop where
  handed_lt : ∀ p ∈ st.2.handed, p < st.1.heap.next
  certs_lt : ∀ c, st.1.certsBuf = some c → c < st.1.heap.next
  certs_not_handed : ∀ c, st.1.certsBuf = some c → c ∉ st.2.handed
  buffer : ∀ q, st.1.outputBuffer = some q → q ∈ st.2.handed → st.2.latest = some q

section Steps

variable (s : Driver) (k : Caller)

theorem step_transmit (url : List UInt8) (tx : Option (List UInt8)) (txLen : UInt32)
    (h : List (List UInt8)) (server : Request → Exchange) :
    (Call.transmit url tx txLen h server).step (s, k) =
      (((transmit url tx txLen h server).run s).2,
        ⟨k.handed ++ ((transmit url tx txLen h server).run s).1.2.rx.toList,
          ((transmit url tx txLen h server).run s).1.2.rx⟩) := rfl

theorem transmit_owned (url : List UInt8) (tx : Option (List UInt8)) (txLen : UInt32)
    (h : List (List UInt8)) (server : Request → Exchange) (owned : Owned (s, k)) :
    Owned ((Call.transmit url tx txLen h server).step (s, k)) := by
  rw [step_transmit]
  have fresh := transmit_fresh url tx txLen h server s
  have grown := fresh.keeps.next_le
  /- A block handed over by this call is its own buffer, so newer than every older block. -/
  have new : ∀ p ∈ ((transmit url tx txLen h server).run s).1.2.rx.toList,
      s.heap.next ≤ p ∧ p < ((transmit url tx txLen h server).run s).2.heap.next := fun p got =>
    fresh.buffer p (transmit_outputBuffer_eq_rx url tx txLen h server s p (Option.mem_toList.mp got))
  refine ⟨fun p got => ?_, fun c got => ?_, fun c got handed => ?_, fun q got handed => ?_⟩
  · rcases List.mem_append.mp got with old | this
    · exact Nat.lt_of_lt_of_le (owned.handed_lt p old) grown
    · exact (new p this).2
  · exact Nat.lt_of_lt_of_le (owned.certs_lt c (fresh.certs ▸ got)) grown
  · have older := owned.certs_lt c (fresh.certs ▸ got)
    rcases List.mem_append.mp handed with old | this
    · exact owned.certs_not_handed c (fresh.certs ▸ got) old
    · exact absurd (new c this).1 (Nat.not_le.mpr older)
  · rcases List.mem_append.mp handed with old | this
    · exact absurd (fresh.buffer q got).1 (Nat.not_le.mpr (owned.handed_lt q old))
    · exact Option.mem_toList.mp this

theorem release_owned (rx : Option Nat) (owned : Owned (s, k)) :
    Owned ((Call.release rx).step (s, k)) := by
  have same : ((releaseResponse rx).run s).2.heap.next = s.heap.next := free_next rx s.heap
  exact ⟨fun p got => same ▸ owned.handed_lt p got, fun c got => same ▸ owned.certs_lt c got,
    owned.certs_not_handed, owned.buffer⟩

end Steps

theorem step_owned (call : Call) (st : Driver × Caller) (owned : Owned st) : Owned (call.step st) := by
  obtain ⟨s, k⟩ := st
  cases call with
  | transmit url tx txLen h server => exact transmit_owned s k url tx txLen h server owned
  | release rx => exact release_owned s k rx owned

theorem session_owned (calls : List Call) (st : Driver × Caller) (owned : Owned st) :
    Owned (session calls st) := by
  induction calls generalizing st with
  | nil => exact owned
  | cons call calls ih => exact ih _ (step_owned call st owned)

theorem espidfHttpinterfaceInit_certs_lt (heap : Heap) (mountOk : Bool)
    (file : Option (List UInt8)) (mallocOk : Bool) (c : Nat)
    (got : ((espidfHttpinterfaceInit mountOk file mallocOk).run (Driver.boot heap)).2.certsBuf = some c) :
    c < ((espidfHttpinterfaceInit mountOk file mallocOk).run (Driver.boot heap)).2.heap.next := by
  cases mountOk
  · cases got
  cases file with
  | none => cases got
  | some bytes =>
    cases mallocOk
    · cases got
    · cases got
      show heap.next < (memcpy heap.next 0 (bytes ++ [0]) (heap.allocate _)).2.next
      simp only [memcpy_next, Heap.allocate_next]
      omega

theorem lifetime_owned (heap : Heap) (mountOk : Bool) (file : Option (List UInt8))
    (mallocOk : Bool) (calls : List Call) : Owned (lifetime heap mountOk file mallocOk calls) :=
  session_owned calls _ ⟨fun p got => (by cases got),
    espidfHttpinterfaceInit_certs_lt heap mountOk file mallocOk, fun c _ got => (by cases got),
    fun q _ got => (by cases got)⟩

/-! ## What `fini` and later calls free -/

section Lifetime

variable (heap : Heap) (mountOk : Bool) (file : Option (List UInt8)) (mallocOk : Bool)
  (calls : List Call)

/-- However a lifetime went, a `transmit` made after it leaves every block the caller was handed
as it was. -/
theorem transmit_keeps_handed_blocks (url : List UInt8) (tx : Option (List UInt8))
    (txLen : UInt32) (h : List (List UInt8)) (server : Request → Exchange) :
    ∀ p ∈ (lifetime heap mountOk file mallocOk calls).2.handed,
      ((transmit url tx txLen h server).run (lifetime heap mountOk file mallocOk calls).1).2.heap.blocks.lookup p =
        (lifetime heap mountOk file mallocOk calls).1.heap.blocks.lookup p := fun p handed =>
  transmit_keeps_older_blocks url tx txLen h server _ p
    ((lifetime_owned heap mountOk file mallocOk calls).handed_lt p handed)

/-- The response `OK` of a first `transmit` outlives a second one. -/
theorem transmit_keeps_first_response :
    0 ∈ (lifetime .empty false none true
        [.transmit [] none 0 [] fun _ => ⟨[.onData [0x4F, 0x4B] true], espOk, 200⟩]).2.handed ∧
      ((transmit [] none 0 [] fun _ => ⟨[.onData [0x4E, 0x4F] true], espOk, 200⟩).run
          (lifetime .empty false none true
            [.transmit [] none 0 [] fun _ => ⟨[.onData [0x4F, 0x4B] true], espOk, 200⟩]).1).2.heap.blocks.lookup 0 =
        some [0x4F, 0x4B, 0] :=
  have handed : 0 ∈ (lifetime .empty false none true
      [.transmit [] none 0 [] fun _ => ⟨[.onData [0x4F, 0x4B] true], espOk, 200⟩]).2.handed := by decide
  ⟨handed, (transmit_keeps_handed_blocks .empty false none true _ [] none 0 [] _ 0 handed).trans (by decide)⟩

/-- However a lifetime went, the only block handed to the caller that `fini` can release is the
latest response. -/
theorem espidfHttpinterfaceFini_frees_only_latest (q : Nat)
    (handed : q ∈ (lifetime heap mountOk file mallocOk calls).2.handed)
    (live : (lifetime heap mountOk file mallocOk calls).1.heap.live q = true)
    (released : (espidfHttpinterfaceFini.run (lifetime heap mountOk file mallocOk calls).1).2.heap.live q = false) :
    (lifetime heap mountOk file mallocOk calls).2.latest = some q := by
  have owned := lifetime_owned heap mountOk file mallocOk calls
  by_cases buffer : (lifetime heap mountOk file mallocOk calls).1.outputBuffer = some q
  · exact owned.buffer q buffer handed
  by_cases certs : (lifetime heap mountOk file mallocOk calls).1.certsBuf = some q
  · exact absurd handed (owned.certs_not_handed q certs)
  rw [espidfHttpinterfaceFini_heap, Heap.live, lookup_free_of_ne q _ _ certs,
    lookup_free_of_ne q _ _ buffer] at released
  rw [Heap.live, released] at live
  cases live

/-- A lifetime of one `transmit` answered `OK`: `fini` releases the response, the latest. -/
theorem espidfHttpinterfaceFini_frees_latest_response :
    0 ∈ (lifetime .empty false none true
        [.transmit [] none 0 [] fun _ => ⟨[.onData [0x4F, 0x4B] true], espOk, 200⟩]).2.handed ∧
      (lifetime .empty false none true
        [.transmit [] none 0 [] fun _ => ⟨[.onData [0x4F, 0x4B] true], espOk, 200⟩]).1.heap.live 0 = true ∧
      (espidfHttpinterfaceFini.run (lifetime .empty false none true
        [.transmit [] none 0 [] fun _ => ⟨[.onData [0x4F, 0x4B] true], espOk, 200⟩]).1).2.heap.live 0 = false ∧
      (lifetime .empty false none true
        [.transmit [] none 0 [] fun _ => ⟨[.onData [0x4F, 0x4B] true], espOk, 200⟩]).2.latest = some 0 :=
  have handed : 0 ∈ (lifetime .empty false none true
      [.transmit [] none 0 [] fun _ => ⟨[.onData [0x4F, 0x4B] true], espOk, 200⟩]).2.handed := by decide
  have live : (lifetime .empty false none true
      [.transmit [] none 0 [] fun _ => ⟨[.onData [0x4F, 0x4B] true], espOk, 200⟩]).1.heap.live 0 = true := by
    decide
  have released : (espidfHttpinterfaceFini.run (lifetime .empty false none true
      [.transmit [] none 0 [] fun _ => ⟨[.onData [0x4F, 0x4B] true], espOk, 200⟩]).1).2.heap.live 0 = false := by
    decide
  ⟨handed, live, released,
    espidfHttpinterfaceFini_frees_only_latest .empty false none true _ 0 handed live released⟩

/-- Boot, `init` without certificates, one `transmit` whose server answers `OK`, and the caller
releasing the response: between the calls `output_buffer` still points at the response, and
`fini` frees it a second time. -/
theorem espidfHttpinterfaceFini_frees_caller_buffer :
    match lifetime .empty false none true
        [.transmit [] none 0 [] (fun _ => ⟨[.onData [0x4F, 0x4B] true], espOk, 200⟩), .release (some 0)] with
    | (s, k) => k.handed = [0] ∧ s.outputBuffer = some 0 ∧ s.heap.corrupted = false ∧
        (espidfHttpinterfaceFini.run s).2.heap.corrupted = true := by
  decide

end Lifetime

end LpacEspidf.Http
