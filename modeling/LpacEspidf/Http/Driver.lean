import LpacEspidf.Http.Heap

/-!
# The ESP-IDF HTTP driver

`driver/http/espidf.c`: the globals `output_buffer`, `output_len`, `receive_len`, `certs_buf` and
`certs_buf_len`, the event handler that gathers a response body into `output_buffer`, and
`transmit`, `espidf_httpinterface_init` and `espidf_httpinterface_fini` over them.

The ESP-IDF client is the environment.  Given the request `transmit` configures, a server answers
with an `Exchange`: the events `esp_http_client_perform` dispatches to the handler (each
`HTTP_EVENT_ON_DATA` with whether its `malloc` or `realloc` succeeds), the error `perform` returns
and the status code.  A theorem over every server is one over every event sequence and every
pattern of allocation failures.

On success with a body `transmit` hands `output_buffer` to the caller through `*rx` and leaves the
global pointing at it (`transmit_outputBuffer_eq_rx`).  The next `transmit` drops the pointer without
freeing it, and touches no block older than itself (`transmit_keeps_older_blocks`), but
`espidf_httpinterface_fini` frees it (`espidfHttpinterfaceFini_heap`): a caller that has released
its response sees the block freed twice (`espidfHttpinterfaceFini_frees_released_response`).
-/

set_option autoImplicit false

namespace LpacEspidf.Http

def espOk : Int := 0

def espFail : Int := -1

/-- The events of `esp_http_client_event_id_t` the handler tells apart. -/
inductive HttpEvent where
  | error
  | onConnected
  | headerSent
  | onHeader
  /-- A chunk of the body, and whether the `malloc` or `realloc` the handler makes for it
  succeeds. -/
  | onData (data : List UInt8) (allocOk : Bool)
  | onFinish
  | disconnected
  | redirect
  deriving DecidableEq, Repr

/-- The header `esp_http_client_set_header` receives for one string of `h`: the text before the
first `:` and the string from two characters after it, or `none` for the value when that is past
the string's terminator.  A string without `:` gives no header. -/
def headerField (line : List UInt8) : Option (List UInt8 × Option (List UInt8)) :=
  (line.indexOf? 0x3A).map fun k =>
    (line.take k, if k + 2 ≤ line.length then some (line.drop (k + 2)) else none)

/-- What `transmit` configures the client with: the URL, the CA bundle (`cert_pem`, `cert_len`), the
POST body with its length, and the headers in order. -/
structure Request where
  url : List UInt8
  certs : Option (Nat × Nat)
  post : Option (List UInt8 × UInt32)
  headers : List (List UInt8 × Option (List UInt8))
  deriving DecidableEq, Repr

/-- What the server and the client make of a request: the events `esp_http_client_perform`
dispatches, the error it returns and what `esp_http_client_get_status_code` reports. -/
structure Exchange where
  events : List HttpEvent
  err : Int
  status : UInt32
  deriving DecidableEq, Repr

/-- What `transmit` writes through `rcode`, `rx` and `rx_len`. -/
structure Reply where
  rcode : UInt32
  rx : Option Nat
  rxLen : UInt32
  deriving DecidableEq, Repr

/-- The driver's globals, whether SPIFFS is mounted, and the heap. -/
structure Driver where
  outputBuffer : Option Nat
  outputLen : UInt32
  receiveLen : UInt32
  certsBuf : Option Nat
  certsBufLen : Nat
  mounted : Bool
  heap : Heap

def Driver.boot (heap : Heap) : Driver := ⟨none, 0, 0, none, 0, false, heap⟩

def onHeap {α : Type} (m : StateM Heap α) : StateM Driver α := fun s =>
  ((m s.heap).1, { s with heap := (m s.heap).2 })

@[simp]
theorem onHeap_run {α : Type} (m : StateM Heap α) (s : Driver) :
    (onHeap m).run s = ((m s.heap).1, { s with heap := (m s.heap).2 }) := rfl

/-! ## The event handler -/

/-- `_http_event_handler`: only `HTTP_EVENT_ON_DATA` touches the driver, appending its chunk to
`output_buffer` (`malloc` for the first, `realloc` after) and counting it in `receive_len` even when
the allocation fails.  The others log, and a redirect is the client's business. -/
def httpEventHandler : HttpEvent → StateM Driver Int
  | .onData data allocOk => do
    modify fun s => { s with receiveLen := s.receiveLen + data.length.toUInt32 }
    let s ← get
    let buffer ← match s.outputBuffer with
      | none => do
        let p ← onHeap (malloc (data.length + 1) allocOk)
        modify fun s => { s with outputBuffer := p, outputLen := 0 }
        pure p
      | some old => do
        let p ← onHeap (realloc old (s.outputLen + data.length.toUInt32 + 1).toNat allocOk)
        modify fun s => { s with outputBuffer := p }
        pure p
    match buffer with
    | none => pure espFail
    | some p => do
      let s ← get
      onHeap (memcpy p s.outputLen.toNat data)
      modify fun s => { s with outputLen := s.outputLen + data.length.toUInt32 }
      pure espOk
  | _ => pure espOk

/-- `esp_http_client_perform` as the driver sees it: the events dispatched to the handler in order,
then the error. -/
def espHttpClientPerform (ex : Exchange) : StateM Driver Int := do
  ex.events.forM fun e => discard (httpEventHandler e)
  pure ex.err

/-! ## `transmit` -/

/-- The request of `transmit(url, …, tx, tx_len, h)`: the CA bundle when `certs_buf` is loaded, a
POST when `tx` is not `NULL`. -/
def request (url : List UInt8) (tx : Option (List UInt8)) (txLen : UInt32) (h : List (List UInt8))
    (s : Driver) : Request :=
  ⟨url, s.certsBuf.map (·, s.certsBufLen), tx.map (·, txLen), h.filterMap headerField⟩

/-- The end of `transmit`, once `esp_http_client_perform` has returned `err`: a count mismatch drops
the body, a failure frees it, and a success hands it over with a terminating `0`. -/
def collectResponse (err : Int) (status : UInt32) : StateM Driver (Int × Reply) := do
  let s ← get
  let (err, reply) ←
    if s.outputLen ≠ s.receiveLen then do
      onHeap (free s.outputBuffer)
      modify fun s => { s with outputBuffer := none }
      pure (espFail, Reply.mk 0 none 0)
    else if err = espOk then
      match s.outputBuffer with
      | some p =>
        if 0 < s.outputLen then do
          onHeap (memcpy p s.outputLen.toNat [0])
          pure (err, Reply.mk status (some p) (s.outputLen + 1))
        else pure (err, Reply.mk status none 0)
      | none => pure (err, Reply.mk status none 0)
    else do
      onHeap (free s.outputBuffer)
      modify fun s => { s with outputBuffer := none }
      pure (err, Reply.mk status none 0)
  modify fun s => { s with outputLen := 0, receiveLen := 0 }
  pure (if err = espOk then 0 else -1, reply)

/-- `transmit`: configure the request, reset the globals, perform, collect. -/
def transmit (url : List UInt8) (tx : Option (List UInt8)) (txLen : UInt32)
    (h : List (List UInt8)) (server : Request → Exchange) : StateM Driver (Int × Reply) := do
  let s ← get
  let ex := server (request url tx txLen h s)
  set { s with outputBuffer := none, outputLen := 0, receiveLen := 0 }
  let err ← espHttpClientPerform ex
  collectResponse err ex.status

/-! ## `init` and `fini` -/

/-- `espidf_httpinterface_init`: mount SPIFFS and load `gsma_certs.pem` with a terminating `0`.
`mountOk` is whether the mount succeeds, `file` the certificate file if it opens.  When the
`malloc` fails, `fread` and the terminator write through `NULL`. -/
def espidfHttpinterfaceInit (mountOk : Bool) (file : Option (List UInt8)) (mallocOk : Bool) :
    StateM Driver Int := do
  if mountOk then
    modify fun s => { s with mounted := true }
    if let some bytes := file then
      let p ← onHeap (malloc (bytes.length + 1) mallocOk)
      modify fun s => { s with certsBufLen := bytes.length, certsBuf := p }
      match p with
      | some p => onHeap (memcpy p 0 (bytes ++ [0]))
      | none => onHeap (modify Heap.corrupt)
      modify fun s => { s with certsBufLen := s.certsBufLen + 1 }
  pure 0

/-- `espidf_httpinterface_fini`: free `output_buffer` and `certs_buf`, and unmount SPIFFS when the
certificates were loaded. -/
def espidfHttpinterfaceFini : StateM Driver Unit := do
  let s ← get
  if s.outputBuffer.isSome then
    onHeap (free s.outputBuffer)
    modify fun s => { s with outputBuffer := none }
  let s ← get
  if s.certsBuf.isSome then
    onHeap (free s.certsBuf)
    modify fun s => { s with certsBuf := none, mounted := false }

/-- The caller releasing the response `transmit` gave it. -/
def releaseResponse (rx : Option Nat) : StateM Driver Unit := onHeap (free rx)

/-! ## Spec lemmas -/

section Handler

variable (data : List UInt8) (ok : Bool) (s : Driver)

theorem httpEventHandler_onData_first (empty : s.outputBuffer = none) :
    (httpEventHandler (.onData data ok)).run s =
      if ok then
        (espOk, { s with
          outputBuffer := some s.heap.next, outputLen := 0 + data.length.toUInt32,
          receiveLen := s.receiveLen + data.length.toUInt32,
          heap := (memcpy s.heap.next 0 data (s.heap.allocate (List.replicate (data.length + 1) 0))).2 })
      else (espFail, { s with outputLen := 0, receiveLen := s.receiveLen + data.length.toUInt32 }) := by
  obtain ⟨_ | _, _, _, _, _, _, _⟩ := s
  · cases ok <;> rfl
  · cases empty

theorem httpEventHandler_onData_more (old : Nat) (full : s.outputBuffer = some old) :
    (httpEventHandler (.onData data ok)).run s =
      if ok then
        (espOk, { s with
          outputBuffer := some s.heap.next, outputLen := s.outputLen + data.length.toUInt32,
          receiveLen := s.receiveLen + data.length.toUInt32,
          heap := (memcpy s.heap.next s.outputLen.toNat data
            (realloc old (s.outputLen + data.length.toUInt32 + 1).toNat true s.heap).2).2 })
      else (espFail, { s with outputBuffer := none, receiveLen := s.receiveLen + data.length.toUInt32 }) := by
  obtain ⟨_ | _, _, _, _, _, _, _⟩ := s
  · cases full
  · cases full
    cases ok <;> rfl

end Handler

theorem forM_handler_cons (e : HttpEvent) (events : List HttpEvent) (s : Driver) :
    ((e :: events).forM fun e => discard (httpEventHandler e)).run s =
      (events.forM fun e => discard (httpEventHandler e)).run ((httpEventHandler e).run s).2 := rfl

section Collect

variable (err : Int) (status : UInt32) (s : Driver)

theorem collectResponse_lost (lost : s.outputLen ≠ s.receiveLen) :
    (collectResponse err status).run s = ((-1, ⟨0, none, 0⟩), { s with
      outputBuffer := none, outputLen := 0, receiveLen := 0, heap := (free s.outputBuffer s.heap).2 }) := by
  simp only [collectResponse, StateT.run_bind, StateT.run_get, Id.bind_eq, Id.pure_eq, if_pos lost]
  rfl

theorem collectResponse_failed (same : s.outputLen = s.receiveLen) (failed : err ≠ espOk) :
    (collectResponse err status).run s = ((-1, ⟨status, none, 0⟩), { s with
      outputBuffer := none, outputLen := 0, receiveLen := 0, heap := (free s.outputBuffer s.heap).2 }) := by
  simp only [collectResponse, StateT.run_bind, StateT.run_get, StateT.run_pure, StateT.run_modify,
    onHeap_run, Id.bind_eq, Id.pure_eq, same, ne_eq, not_true_eq_false, if_false, failed]

theorem collectResponse_body (same : s.outputLen = s.receiveLen) (p : Nat)
    (full : s.outputBuffer = some p) (body : 0 < s.outputLen) :
    (collectResponse espOk status).run s = ((0, ⟨status, some p, s.outputLen + 1⟩), { s with
      outputLen := 0, receiveLen := 0, heap := (memcpy p s.outputLen.toNat [0] s.heap).2 }) := by
  obtain ⟨_ | q, outputLen, receiveLen, _, _, _, heap⟩ := s
  · cases full
  · cases full
    dsimp only at same body
    subst same
    simp only [collectResponse, StateT.run_bind, StateT.run_get, StateT.run_pure, StateT.run_modify,
      onHeap_run, Id.bind_eq, Id.pure_eq, ne_eq, not_true_eq_false, if_false, if_true, if_pos body]

theorem collectResponse_empty (same : s.outputLen = s.receiveLen)
    (empty : s.outputBuffer = none ∨ s.outputLen = 0) :
    (collectResponse espOk status).run s =
      ((0, ⟨status, none, 0⟩), { s with outputLen := 0, receiveLen := 0 }) := by
  obtain ⟨_ | q, outputLen, receiveLen, _, _, _, heap⟩ := s
  all_goals
    dsimp only at same empty
    subst same
    simp only [collectResponse, StateT.run_bind, StateT.run_get, StateT.run_pure, StateT.run_modify,
      onHeap_run, Id.bind_eq, Id.pure_eq, ne_eq, not_true_eq_false, if_false, if_true]
  rcases empty with empty | nothing
  · cases empty
  · rw [nothing]
    rfl

theorem collectResponse_cases :
    ((collectResponse err status).run s).1.2.rx = none ∧
        (((collectResponse err status).run s).2 = { s with
            outputBuffer := none, outputLen := 0, receiveLen := 0,
            heap := (free s.outputBuffer s.heap).2 } ∨
          ((collectResponse err status).run s).2 = { s with outputLen := 0, receiveLen := 0 }) ∨
      ∃ p, s.outputBuffer = some p ∧ ((collectResponse err status).run s).1.2.rx = some p ∧
        ((collectResponse err status).run s).2 = { s with
          outputLen := 0, receiveLen := 0, heap := (memcpy p s.outputLen.toNat [0] s.heap).2 } := by
  by_cases lost : s.outputLen ≠ s.receiveLen
  · exact .inl (by rw [collectResponse_lost err status s lost]; exact ⟨rfl, .inl rfl⟩)
  rw [not_not] at lost
  by_cases failed : err = espOk
  · subst failed
    by_cases body : ∃ p, s.outputBuffer = some p ∧ 0 < s.outputLen
    · obtain ⟨p, full, body⟩ := body
      exact .inr ⟨p, full, by rw [collectResponse_body status s lost p full body]; exact ⟨rfl, rfl⟩⟩
    · have empty : s.outputBuffer = none ∨ s.outputLen = 0 := by
        rcases hb : s.outputBuffer with _ | p
        · exact .inl rfl
        · exact .inr (UInt32.eq_of_val_eq (Fin.ext
            (Nat.eq_zero_of_not_pos fun positive => body ⟨p, hb, positive⟩)))
      exact .inl (by rw [collectResponse_empty status s lost empty]; exact ⟨rfl, .inr rfl⟩)
  · exact .inl (by rw [collectResponse_failed err status s lost failed]; exact ⟨rfl, .inl rfl⟩)

end Collect

section Transmit

variable (url : List UInt8) (tx : Option (List UInt8)) (txLen : UInt32) (h : List (List UInt8))
  (server : Request → Exchange) (s : Driver)

theorem transmit_run :
    (transmit url tx txLen h server).run s =
      (collectResponse (server (request url tx txLen h s)).err
          (server (request url tx txLen h s)).status).run
        ((espHttpClientPerform (server (request url tx txLen h s))).run
          { s with outputBuffer := none, outputLen := 0, receiveLen := 0 }).2 := rfl

theorem transmit_outputBuffer_eq_rx (p : Nat)
    (handed : ((transmit url tx txLen h server).run s).1.2.rx = some p) :
    ((transmit url tx txLen h server).run s).2.outputBuffer = some p := by
  rw [transmit_run] at handed ⊢
  rcases collectResponse_cases (server (request url tx txLen h s)).err
      (server (request url tx txLen h s)).status _ with ⟨none_handed, -⟩ | ⟨q, full, rx, after⟩
  · rw [none_handed] at handed
    cases handed
  · rw [rx] at handed
    cases handed
    rw [after]
    exact full

end Transmit

/-! ## What one `transmit` touches -/

/-- `s` is reached from `s₀` by the steps of one `transmit` after its reset: no block older than the
call changed, `output_buffer` is `NULL` or a block the call allocated, and `certs_buf` is as it
was. -/
structure Fresh (s₀ s : Driver) : Prop where
  keeps : s₀.heap.KeepsBelow s₀.heap.next s.heap
  buffer : ∀ q, s.outputBuffer = some q → s₀.heap.next ≤ q ∧ q < s.heap.next
  certs : s.certsBuf = s₀.certsBuf

section Fresh

variable {s₀ : Driver}

theorem httpEventHandler_fresh (e : HttpEvent) {s : Driver} (fresh : Fresh s₀ s) :
    Fresh s₀ ((httpEventHandler e).run s).2 := by
  cases e with
  | onData data ok =>
    have room := fresh.keeps.next_le
    rcases full : s.outputBuffer with _ | old
    · rw [httpEventHandler_onData_first data ok s full]
      cases ok
      · exact ⟨fresh.keeps, fun q got => (by cases full ▸ got), fresh.certs⟩
      · rw [if_pos rfl]
        refine ⟨fresh.keeps.trans ((keepsBelow_allocate _ _ _ room).trans
          (keepsBelow_memcpy _ _ _ _ _ room)), fun q got => ?_, fresh.certs⟩
        cases got
        simp only [memcpy_next, Heap.allocate_next]
        omega
    · have above := (fresh.buffer old full).1
      rw [httpEventHandler_onData_more data ok s old full]
      cases ok
      · exact ⟨fresh.keeps, fun q got => (by cases got), fresh.certs⟩
      · rw [if_pos rfl]
        refine ⟨fresh.keeps.trans ((keepsBelow_realloc _ _ _ _ _ room above).trans
          (keepsBelow_memcpy _ _ _ _ _ room)), fun q got => ?_, fresh.certs⟩
        cases got
        simp only [memcpy_next, realloc_next, if_true]
        omega
  | _ => exact fresh

theorem dispatch_fresh (events : List HttpEvent) {s : Driver} (fresh : Fresh s₀ s) :
    Fresh s₀ ((events.forM fun e => discard (httpEventHandler e)).run s).2 := by
  induction events generalizing s with
  | nil => exact fresh
  | cons e events ih => exact ih (httpEventHandler_fresh e fresh)

theorem collectResponse_fresh (err : Int) (status : UInt32) {s : Driver} (fresh : Fresh s₀ s) :
    Fresh s₀ ((collectResponse err status).run s).2 := by
  rcases collectResponse_cases err status s with ⟨-, freed | kept⟩ | ⟨p, full, -, handed⟩
  · rw [freed]
    exact ⟨fresh.keeps.trans (keepsBelow_free _ _ _ fun q got => (fresh.buffer q got).1),
      fun q got => (by cases got), fresh.certs⟩
  · rw [kept]
    exact ⟨fresh.keeps, fresh.buffer, fresh.certs⟩
  · rw [handed]
    exact ⟨fresh.keeps.trans (keepsBelow_memcpy _ _ _ _ _ (fresh.buffer p full).1),
      fun q got => by simpa only [memcpy_next] using fresh.buffer q got, fresh.certs⟩

end Fresh

section Transmit

variable (url : List UInt8) (tx : Option (List UInt8)) (txLen : UInt32) (h : List (List UInt8))
  (server : Request → Exchange) (s : Driver)

theorem transmit_fresh : Fresh s ((transmit url tx txLen h server).run s).2 := by
  rw [transmit_run]
  exact collectResponse_fresh _ _ (dispatch_fresh _
    ⟨.refl _ _, fun q got => (by cases got), rfl⟩)

theorem transmit_keeps_older_blocks :
    ∀ p < s.heap.next, ((transmit url tx txLen h server).run s).2.heap.blocks.lookup p =
      s.heap.blocks.lookup p :=
  (transmit_fresh url tx txLen h server s).keeps.lookup_eq

end Transmit

/-! ## `fini` -/

theorem espidfHttpinterfaceFini_heap (s : Driver) :
    (espidfHttpinterfaceFini.run s).2.heap = (free s.certsBuf (free s.outputBuffer s.heap).2).2 := by
  obtain ⟨_ | p, _, _, _ | c, _, _, heap⟩ := s <;> rfl

/-- Whenever `transmit` hands a buffer to the caller and the caller releases it, `fini` frees it a
second time. -/
theorem espidfHttpinterfaceFini_frees_released_response (url : List UInt8)
    (tx : Option (List UInt8)) (txLen : UInt32) (h : List (List UInt8))
    (server : Request → Exchange) (s : Driver) (p : Nat)
    (handed : ((transmit url tx txLen h server).run s).1.2.rx = some p) :
    (espidfHttpinterfaceFini.run ((releaseResponse (some p)).run
      ((transmit url tx txLen h server).run s).2).2).2.heap.corrupted = true := by
  rw [espidfHttpinterfaceFini_heap]
  refine free_corrupted _ _ ?_
  simp only [releaseResponse, onHeap_run, transmit_outputBuffer_eq_rx url tx txLen h server s p handed]
  exact free_twice p _

/-- A server answering `OK`: the response is block 0, and freed twice. -/
theorem espidfHttpinterfaceFini_frees_released_ok :
    ((transmit [] none 0 [] fun _ => ⟨[.onData [0x4F, 0x4B] true], espOk, 200⟩).run
        (Driver.boot .empty)).1.2.rx = some 0 ∧
      (espidfHttpinterfaceFini.run ((releaseResponse (some 0)).run
        ((transmit [] none 0 [] fun _ => ⟨[.onData [0x4F, 0x4B] true], espOk, 200⟩).run
          (Driver.boot .empty)).2).2).2.heap.corrupted = true :=
  have handed : ((transmit [] none 0 [] fun _ => ⟨[.onData [0x4F, 0x4B] true], espOk, 200⟩).run
      (Driver.boot .empty)).1.2.rx = some 0 := by decide
  ⟨handed, espidfHttpinterfaceFini_frees_released_response [] none 0 [] _ _ 0 handed⟩

end LpacEspidf.Http
