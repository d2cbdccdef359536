import LpacEspidf.Http.Session

/-!
# The CA bundle over a lifetime

`espidf_httpinterface_init` reads `/storage/gsma_certs.pem` into `certs_buf` with a terminating
`0`, and counts the terminator in `certs_buf_len`; every `transmit` passes the two to the client as
`cert_pem` and `cert_len`.  `CertsLoaded c F s` says that `certs_buf` is block `c` holding the file
`F` and the `0`.  `init` establishes it when the file loads, no `transmit` disturbs it (it writes
and frees only blocks of its own), and the caller does not as long as it never frees `certs_buf`.
So over every lifetime every `transmit` hands the client the file as it was read
(`lifetime_request_certs`).
-/

set_option autoImplicit false

namespace LpacEspidf.Http

/-- `certs_buf` is block `c` holding `F` and a `0`, and `certs_buf_len` counts both. -/
structure CertsLoaded (c : Nat) (F : List UInt8) (s : Driver) : Prop where
  buf : s.certsBuf = some c
  len : s.certsBufLen = F.length + 1
  bytes : s.heap.blocks.lookup c = some (F ++ [0])
  older : c < s.heap.next

theorem espidfHttpinterfaceInit_loads (heap : Heap) (F : List UInt8) :
    CertsLoaded heap.next F ((espidfHttpinterfaceInit true (some F) true).run (Driver.boot heap)).2 := by
  have fresh := heap.lookup_allocate_self (List.replicate (F.length + 1) 0)
  have inside : 0 + (F ++ [0]).length ≤ (List.replicate (F.length + 1) (0 : UInt8)).length := by simp
  refine ⟨rfl, rfl, ?_, ?_⟩
  · show (memcpy heap.next 0 (F ++ [0]) (heap.allocate _)).2.blocks.lookup heap.next = _
    rw [lookup_memcpy_self _ _ _ _ _ fresh inside, List.take_zero, List.nil_append,
      List.drop_eq_nil_of_le (by simp), List.append_nil]
  · show heap.next < (memcpy heap.next 0 (F ++ [0]) (heap.allocate _)).2.next
    simp only [memcpy_next, Heap.allocate_next]
    omega

theorem httpEventHandler_certsBufLen (e : HttpEvent) (s : Driver) :
    ((httpEventHandler e).run s).2.certsBufLen = s.certsBufLen := by
  cases e with
  | onData d ok =>
    rcases full : s.outputBuffer with _ | old
    · rw [httpEventHandler_onData_first d ok s full]
      cases ok <;> rfl
    · rw [httpEventHandler_onData_more d ok s old full]
      cases ok <;> rfl
  | _ => rfl

theorem transmit_certsBufLen (url : List UInt8) (tx : Option (List UInt8)) (txLen : UInt32)
    (h : List (List UInt8)) (server : Request → Exchange) (s : Driver) :
    ((transmit url tx txLen h server).run s).2.certsBufLen = s.certsBufLen := by
  have dispatch : ∀ (events : List HttpEvent) (s : Driver),
      ((events.forM fun e => discard (httpEventHandler e)).run s).2.certsBufLen = s.certsBufLen := by
    intro events
    induction events with
    | nil => exact fun _ => rfl
    | cons e events ih => exact fun s => (ih _).trans (httpEventHandler_certsBufLen e s)
  rw [transmit_run]
  rcases collectResponse_cases (server (request url tx txLen h s)).err
      (server (request url tx txLen h s)).status
      ((espHttpClientPerform (server (request url tx txLen h s))).run
        { s with outputBuffer := none, outputLen := 0, receiveLen := 0 }).2 with
    ⟨-, after | after⟩ | ⟨p, -, -, after⟩ <;>
  · rw [after]
    exact dispatch _ _

section Lifetime

variable {c : Nat} {F : List UInt8}

theorem transmit_certsLoaded (url : List UInt8) (tx : Option (List UInt8)) (txLen : UInt32)
    (h : List (List UInt8)) (server : Request → Exchange) {s : Driver} (loaded : CertsLoaded c F s) :
    CertsLoaded c F ((transmit url tx txLen h server).run s).2 := by
  have fresh := transmit_fresh url tx txLen h server s
  exact ⟨fresh.certs.trans loaded.buf, (transmit_certsBufLen url tx txLen h server s).trans loaded.len,
    (transmit_keeps_older_blocks url tx txLen h server s c loaded.older).trans loaded.bytes,
    Nat.lt_of_lt_of_le loaded.older fresh.keeps.next_le⟩

theorem release_certsLoaded (rx : Option Nat) (other : rx ≠ some c) {s : Driver}
    (loaded : CertsLoaded c F s) : CertsLoaded c F ((releaseResponse rx).run s).2 :=
  ⟨loaded.buf, loaded.len, (lookup_free_of_ne c rx s.heap other).trans loaded.bytes,
    (free_next rx s.heap).symm ▸ loaded.older⟩

theorem session_certsLoaded (calls : List Call) (untouched : ∀ call ∈ calls, call ≠ .release (some c))
    (st : Driver × Caller) (loaded : CertsLoaded c F st.1) :
    CertsLoaded c F (session calls st).1 := by
  induction calls generalizing st with
  | nil => exact loaded
  | cons call calls ih =>
    refine ih (fun call' member => untouched call' (List.mem_cons_of_mem _ member)) _ ?_
    obtain ⟨s, k⟩ := st
    cases call with
    | transmit url tx txLen h server => exact transmit_certsLoaded url tx txLen h server loaded
    | release rx =>
      exact release_certsLoaded rx (fun same => untouched _ (List.mem_cons_self _ _) (same ▸ rfl))
        loaded

end Lifetime

/-- Over every lifetime in which `init` loaded the certificate file `F` and the caller never frees
`certs_buf`, whatever the `transmit` calls, their servers and the caller's releases, the next
`transmit` configures the client with `cert_pem` the block holding `F` and a `0`, and `cert_len`
`|F| + 1`. -/
theorem lifetime_request_certs (heap : Heap) (F : List UInt8) (calls : List Call)
    (untouched : ∀ call ∈ calls, call ≠ .release (some heap.next)) (url : List UInt8)
    (tx : Option (List UInt8)) (txLen : UInt32) (h : List (List UInt8)) :
    (request url tx txLen h (lifetime heap true (some F) true calls).1).certs =
        some (heap.next, F.length + 1) ∧
      (lifetime heap true (some F) true calls).1.heap.blocks.lookup heap.next = some (F ++ [0]) := by
  have loaded : CertsLoaded heap.next F (lifetime heap true (some F) true calls).1 :=
    session_certsLoaded calls untouched
    (((espidfHttpinterfaceInit true (some F) true).run (Driver.boot heap)).2, ⟨[], none⟩)
    (espidfHttpinterfaceInit_loads heap F)
  refine ⟨?_, loaded.bytes⟩
  simp only [request, loaded.buf, loaded.len, Option.map_some']

/-- The file `-`, a `transmit` answered `OK`, and the caller releasing that response. -/
theorem lifetime_request_certs_after_release :
    (∀ call ∈ [Call.transmit [] none 0 [] (fun _ => ⟨[.onData [0x4F, 0x4B] true], espOk, 200⟩),
        .release (some 1)], call ≠ .release (some Heap.empty.next)) ∧
      ((request [] none 0 [] (lifetime .empty true (some [0x2D]) true
          [.transmit [] none 0 [] (fun _ => ⟨[.onData [0x4F, 0x4B] true], espOk, 200⟩),
            .release (some 1)]).1).certs = some (Heap.empty.next, [0x2D].length + 1) ∧
        (lifetime .empty true (some [0x2D]) true
          [.transmit [] none 0 [] (fun _ => ⟨[.onData [0x4F, 0x4B] true], espOk, 200⟩),
            .release (some 1)]).1.heap.blocks.lookup Heap.empty.next = some ([0x2D] ++ [0])) :=
  have untouched : ∀ call ∈ [Call.transmit [] none 0 [] (fun _ => ⟨[.onData [0x4F, 0x4B] true], espOk, 200⟩),
      .release (some 1)], call ≠ .release (some Heap.empty.next) := by
    simp [Heap.empty]
  ⟨untouched, lifetime_request_certs .empty [0x2D] _ untouched [] none 0 []⟩

end LpacEspidf.Http
