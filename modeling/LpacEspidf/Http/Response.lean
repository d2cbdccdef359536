import Mathlib.Algebra.Group.Nat.Basic
import LpacEspidf.Http.Driver

/-!
# The response body

What `_http_event_handler` gathers into `output_buffer` during one `transmit`, and what `transmit`
hands over.  `body` is the concatenation of the `HTTP_EVENT_ON_DATA` chunks.  `Gathered D s` is the
handler's invariant after the chunks `D`: `receive_len` counts every byte, `output_len` at most as
many, and when the two agree `output_buffer` holds all of `D` followed by a `0`.  Every event and
every allocation outcome keeps it (`gathered_onData_first`, `gathered_onData_more`,
`httpEventHandler_gathered`) but one, and a `perform` without that one keeps it
(`dispatch_gathered`): whether the handler reallocates is whether the allocation for the chunk
before succeeded.

The one step that breaks it is an empty chunk whose `realloc` fails: the buffer is dropped while
`output_len` and `receive_len` stay equal, and `transmit` returns 0 with `*rx = NULL` although data
came (`transmit_drops_body_on_empty_chunk`).  Without such a chunk, and below 2^32 bytes, a
`transmit` that returns 0 hands over exactly the body and a terminating `0`
(`transmit_whole_body`).
-/

set_option autoImplicit false

namespace LpacEspidf.Http

def HttpEvent.chunk : HttpEvent → List UInt8
  | .onData data _ => data
  | _ => []

def body : List HttpEvent → List UInt8
  | [] => []
  | e :: events => e.chunk ++ body events

/-- No empty chunk has its `realloc` fail.  The handler reallocates when `output_buffer` is set,
that is when the allocation for the chunk before succeeded (`buffered`). -/
def EmptyReallocsSucceed : Bool → List HttpEvent → Prop
  | _, [] => True
  | buffered, .onData d ok :: events =>
      (buffered = true → d = [] → ok = true) ∧ EmptyReallocsSucceed ok events
  | buffered, _ :: events => EmptyReallocsSucceed buffered events

/-- What the handler holds after the chunks `D` of one `transmit`: `receive_len` counts them all and
`output_len` at most as many; when it counts them all, `output_buffer` holds them with a `0` after,
or is `NULL` and none came. -/
structure Gathered (D : List UInt8) (s : Driver) : Prop where
  received : s.receiveLen.toNat = D.length
  kept : s.outputLen.toNat ≤ D.length
  whole : s.outputLen.toNat = D.length →
    (s.outputBuffer = none ∧ D = []) ∨
      ∃ p, s.outputBuffer = some p ∧ s.heap.blocks.lookup p = some (D ++ [0])

theorem toNat_add_length (a : UInt32) (d : List UInt8) (fits : a.toNat + d.length < 2 ^ 32) :
    (a + d.length.toUInt32).toNat = a.toNat + d.length := by
  show (a.toNat + d.length % 2 ^ 32) % 2 ^ 32 = _
  omega

theorem zero_add_length (d : List UInt8) (fits : d.length < 2 ^ 32) :
    ((0 : UInt32) + d.length.toUInt32).toNat = d.length :=
  (toNat_add_length 0 d (by show 0 + d.length < _; omega)).trans (Nat.zero_add _)

theorem write_over_zeros (D d : List UInt8) :
    (D ++ List.replicate (d.length + 1) 0).take D.length ++ d ++
        (D ++ List.replicate (d.length + 1) 0).drop (D.length + d.length) = D ++ d ++ [0] := by
  rw [write_over_tail, List.drop_replicate, Nat.add_sub_cancel_left]
  rfl

theorem grow_terminated (D : List UInt8) (n : Nat) :
    (D ++ [0]).take (D.length + n + 1) ++ List.replicate (D.length + n + 1 - (D ++ [0]).length) 0 =
      D ++ List.replicate (n + 1) 0 := by
  have grown : D.length + 1 ≤ D.length + n + 1 := by omega
  rw [List.length_append, List.length_singleton, List.take_of_length_le (by simp [grown]),
    Nat.add_sub_add_right, Nat.add_sub_cancel_left, List.append_assoc]
  rfl

section Chunk

variable {D : List UInt8} {s : Driver} (g : Gathered D s) (d : List UInt8)
  (fits : D.length + d.length + 1 < 2 ^ 32)
include g fits

theorem receiveLen_add_length : (s.receiveLen + d.length.toUInt32).toNat = (D ++ d).length := by
  rw [toNat_add_length _ _ (by rw [g.received]; omega), g.received, List.length_append]

theorem gathered_onData_first (empty : s.outputBuffer = none) (ok : Bool) :
    Gathered (D ++ d) ((httpEventHandler (.onData d ok)).run s).2 := by
  have received := receiveLen_add_length g d fits
  rw [httpEventHandler_onData_first d ok s empty]
  cases ok
  · rw [if_neg Bool.false_ne_true]
    exact ⟨received, Nat.zero_le _, fun none_came =>
      .inl ⟨empty, List.eq_nil_of_length_eq_zero none_came.symm⟩⟩
  rw [if_pos rfl]
  have first := zero_add_length d (by omega)
  have len := List.length_append D d
  refine ⟨received, by dsimp only; omega, fun all_kept => .inr ⟨s.heap.next, rfl, ?_⟩⟩
  obtain rfl : D = [] := List.eq_nil_of_length_eq_zero (by dsimp only at all_kept; omega)
  rw [lookup_memcpy_self _ _ _ _ _ (s.heap.lookup_allocate_self _) (by simp)]
  exact congrArg some (write_over_zeros [] d)

theorem gathered_onData_more (old : Nat) (full : s.outputBuffer = some old) (ok : Bool)
    (nonempty : ok = false → d ≠ []) :
    Gathered (D ++ d) ((httpEventHandler (.onData d ok)).run s).2 := by
  have received := receiveLen_add_length g d fits
  have len := List.length_append D d
  have kept := g.kept
  rw [httpEventHandler_onData_more d ok s old full]
  cases ok
  · rw [if_neg Bool.false_ne_true]
    refine ⟨received, by dsimp only; omega, fun all_kept => ?_⟩
    exact absurd (List.eq_nil_of_length_eq_zero (by dsimp only at all_kept; omega)) (nonempty rfl)
  rw [if_pos rfl]
  have more : (s.outputLen + d.length.toUInt32).toNat = s.outputLen.toNat + d.length :=
    toNat_add_length _ _ (by omega)
  refine ⟨received, by dsimp only; omega, fun all_kept => .inr ⟨s.heap.next, rfl, ?_⟩⟩
  dsimp only at all_kept
  have counted : s.outputLen.toNat = D.length := by omega
  rcases g.whole counted with ⟨gone, -⟩ | ⟨p, same, contents⟩
  · rw [full] at gone
    cases gone
  rw [full] at same
  cases same
  have size : (s.outputLen + d.length.toUInt32 + 1).toNat = D.length + d.length + 1 := by
    show ((s.outputLen + d.length.toUInt32).toNat + 1 % 2 ^ 32) % 2 ^ 32 = _
    rw [more]
    omega
  have bytes : s.heap.bytesAt old = D ++ [0] := by simp only [Heap.bytesAt, contents]; rfl
  dsimp only
  rw [size, lookup_memcpy_self _ _ _ _ _ (lookup_realloc_self _ _ _) (by simp [bytes]; omega),
    bytes, grow_terminated, counted]
  exact congrArg some (write_over_zeros D d)

end Chunk

theorem httpEventHandler_buffered (d : List UInt8) (ok : Bool) (s : Driver) :
    ((httpEventHandler (.onData d ok)).run s).2.outputBuffer.isSome = ok := by
  rcases full : s.outputBuffer with _ | old
  · rw [httpEventHandler_onData_first d ok s full]
    cases ok
    · exact congrArg Option.isSome full
    · rfl
  · rw [httpEventHandler_onData_more d ok s old full]
    cases ok <;> rfl

theorem httpEventHandler_gathered (e : HttpEvent) {D : List UInt8} {s : Driver} (g : Gathered D s)
    (fits : (D ++ e.chunk).length + 1 < 2 ^ 32)
    (nonempty : ∀ d, e = .onData d false → s.outputBuffer.isSome = true → d ≠ []) :
    Gathered (D ++ e.chunk) ((httpEventHandler e).run s).2 := by
  cases e with
  | onData d ok =>
    rw [HttpEvent.chunk, List.length_append] at fits
    rcases full : s.outputBuffer with _ | old
    · exact gathered_onData_first g d fits full ok
    · exact gathered_onData_more g d fits old full ok fun failed =>
        nonempty d (by rw [failed]) (by rw [full]; rfl)
  | _ => exact (List.append_nil D).symm ▸ g

theorem dispatch_gathered (events : List HttpEvent) {D : List UInt8} {s : Driver}
    (g : Gathered D s) (fits : (D ++ body events).length + 1 < 2 ^ 32) {buffered : Bool}
    (now : s.outputBuffer.isSome = buffered) (reallocs : EmptyReallocsSucceed buffered events) :
    Gathered (D ++ body events) ((events.forM fun e => discard (httpEventHandler e)).run s).2 := by
  induction events generalizing D s buffered with
  | nil => exact (List.append_nil D).symm ▸ g
  | cons e events ih =>
    have within : (D ++ e.chunk).length + 1 < 2 ^ 32 := by
      simp only [body, List.length_append] at fits ⊢
      omega
    have rest : (D ++ e.chunk ++ body events).length + 1 < 2 ^ 32 := by
      rw [List.append_assoc]
      exact fits
    rw [forM_handler_cons, body, ← List.append_assoc]
    cases e with
    | onData d ok =>
      have first := httpEventHandler_gathered (.onData d ok) g within fun d' same buf => by
        cases same
        exact fun empty => Bool.false_ne_true (reallocs.1 (now ▸ buf) empty)
      exact ih first rest (httpEventHandler_buffered d ok s) reallocs.2
    | _ => exact ih (httpEventHandler_gathered _ g within fun _ same => by cases same) rest now reallocs

theorem collectResponse_whole (err : Int) (status : UInt32) {D : List UInt8} {s : Driver}
    (g : Gathered D s) (fits : D.length + 1 < 2 ^ 32) {reply : Reply} {s' : Driver}
    (run : (collectResponse err status).run s = ((0, reply), s')) :
    (reply.rx = none ∧ reply.rxLen = 0 ∧ D = []) ∨
      ∃ p, reply.rx = some p ∧ reply.rxLen.toNat = D.length + 1 ∧
        s'.heap.blocks.lookup p = some (D ++ [0]) := by
  by_cases lost : s.outputLen ≠ s.receiveLen
  · rw [collectResponse_lost err status s lost] at run
    cases run
  have same : s.outputLen = s.receiveLen := not_not.mp lost
  have counted : s.outputLen.toNat = D.length := by rw [same]; exact g.received
  by_cases failed : err ≠ espOk
  · rw [collectResponse_failed err status s same failed] at run
    cases run
  rw [not_not] at failed
  subst failed
  rcases full : s.outputBuffer with _ | p
  · rw [collectResponse_empty status s same (.inl full)] at run
    cases run
    rcases g.whole counted with ⟨-, nothing⟩ | ⟨p, got, -⟩
    · exact .inl ⟨rfl, rfl, nothing⟩
    · rw [full] at got
      cases got
  by_cases positive : 0 < s.outputLen
  · rw [collectResponse_body status s same p full positive] at run
    cases run
    rcases g.whole counted with ⟨gone, -⟩ | ⟨q, got, contents⟩
    · rw [full] at gone
      cases gone
    rw [full] at got
    cases got
    refine .inr ⟨p, rfl, ?_, ?_⟩
    · show (s.outputLen.toNat + 1 % 2 ^ 32) % 2 ^ 32 = _
      omega
    · have inside : D.length + [0].length ≤ (D ++ [0]).length := by simp
      rw [lookup_memcpy_self _ _ _ _ _ contents (counted ▸ inside), counted, write_over_tail]
      exact congrArg some (List.append_nil _)
  · have zero : s.outputLen.toNat = 0 := Nat.eq_zero_of_not_pos positive
    rw [collectResponse_empty status s same (.inr (UInt32.eq_of_val_eq (Fin.ext zero)))] at run
    cases run
    exact .inl ⟨rfl, rfl, List.eq_nil_of_length_eq_zero (by omega)⟩

/-- Without an empty chunk whose `realloc` fails, and below 2^32 bytes, a `transmit` that returns 0
hands over exactly the body with a `0` after it, or nothing when the body is empty. -/
theorem transmit_whole_body (url : List UInt8) (tx : Option (List UInt8)) (txLen : UInt32)
    (h : List (List UInt8)) (server : Request → Exchange) (s : Driver) (ex : Exchange)
    (answer : server (request url tx txLen h s) = ex) (reallocs : EmptyReallocsSucceed false ex.events)
    (fits : (body ex.events).length + 1 < 2 ^ 32) (reply : Reply) (s' : Driver)
    (run : (transmit url tx txLen h server).run s = ((0, reply), s')) :
    (reply.rx = none ∧ reply.rxLen = 0 ∧ body ex.events = []) ∨
      ∃ p, reply.rx = some p ∧ reply.rxLen.toNat = (body ex.events).length + 1 ∧
        s'.heap.blocks.lookup p = some (body ex.events ++ [0]) := by
  rw [transmit_run, answer] at run
  have start : Gathered [] { s with outputBuffer := none, outputLen := 0, receiveLen := 0 } :=
    ⟨rfl, Nat.le_refl 0, fun _ => .inl ⟨rfl, rfl⟩⟩
  have g := dispatch_gathered ex.events start fits rfl reallocs
  rw [List.nil_append] at g
  exact collectResponse_whole ex.err ex.status g fits run

/-- The body `OK` in one chunk is handed over in the first block as `OK` and a `0`. -/
theorem transmit_whole_body_ok :
    let ex : Exchange := ⟨[.onData [0x4F, 0x4B] true], espOk, 200⟩
    let r := (transmit [] none 0 [] fun _ => ex).run (Driver.boot .empty)
    (r.1.2.rx = none ∧ r.1.2.rxLen = 0 ∧ body ex.events = []) ∨
      ∃ p, r.1.2.rx = some p ∧ r.1.2.rxLen.toNat = (body ex.events).length + 1 ∧
        r.2.heap.blocks.lookup p = some (body ex.events ++ [0]) := by
  intro ex r
  exact transmit_whole_body [] none 0 [] (fun _ => ex) (Driver.boot .empty) ex rfl
    ⟨fun _ empty => absurd empty (List.cons_ne_nil _ _), trivial⟩ (by decide) _ _ rfl

/-- An empty chunk whose `realloc` fails drops the buffer after the body `OK` while `output_len` and
`receive_len` still agree: `transmit` returns 0 with `*rx = NULL` and `*rx_len = 0`. -/
theorem transmit_drops_body_on_empty_chunk (s : Driver) :
    ((transmit [] none 0 [] fun _ => ⟨[.onData [0x4F, 0x4B] true, .onData [] false], espOk, 200⟩).run
        s).1 = (0, ⟨200, none, 0⟩) ∧
      body [.onData [0x4F, 0x4B] true, .onData [] false] = [0x4F, 0x4B] :=
  ⟨rfl, rfl⟩

end LpacEspidf.Http
