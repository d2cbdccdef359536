import LpacEspidf.Apdu.Echo
import LpacEspidf.Apdu.ToRecv

/-!
# One APDU exchange: `_transmit_raw`

The header goes out with its echo checked, then procedure bytes are read: NULL (`0x60`) is
skipped, `INS` is the ACK, anything else is `SW1` and ends the exchange with `SW1 SW2`.  After an
ACK the body goes out the same way, `to_recv` is computed and the receive loop stores bytes until
it has `to_recv` of them or the line falls silent; in the status-word-only case (`to_recv = 2`)
it drops every `0x60` it reads.

The two loops are functions of the incoming stream (`readProcedureByte`, `receiveLoop`) and the
exchange is cut into its two exits, `statusWordReply` and `receiveReply`, each with its own spec
lemma.  `transmitRaw_cases` says once what a run can do; what a returned `0` leaves in `rx`
and what is written to the line follow from it.
-/

set_option autoImplicit false

namespace LpacEspidf.Apdu

/-- The `while (1)` loop over procedure bytes: a NULL byte is skipped unless it is `INS`, the first
other byte ends the loop, a silence is `none` ("No ack"). -/
def readProcedureByte (ins : UInt8) : List (Option UInt8) → Option UInt8 × List (Option UInt8)
  | [] => (none, [])
  | none :: rest => (none, rest)
  | some ack :: rest => if ack = ins ∨ ack ≠ 0x60 then (some ack, rest) else readProcedureByte ins rest

/-- The receive loop `while (*rx_len < to_recv)`: `rx` holds `rx[0 .. *rx_len)`.  A silence ends it,
and with `to_recv = 2` a `0x60` is stored but not counted. -/
def receiveLoop (toRecv : Int) (rx : List UInt8) (line : List (Option UInt8)) :
    List UInt8 × List (Option UInt8) :=
  if (rx.length : Int) < toRecv then
    match line with
    | [] => (rx, [])
    | none :: rest => (rx, rest)
    | some x :: rest =>
      if toRecv = 2 ∧ x = 0x60 then receiveLoop toRecv rx rest
      else receiveLoop toRecv (rx ++ [x]) rest
  else (rx, line)

/-- Lines 87-104: the card answered the header with a status word in place of the ACK. -/
def statusWordReply (sw1 : UInt8) : StateM Board (Int × List UInt8) := do
  let [sw2] ← uartReadBytes 1 | return (-1, [])
  if (← uartReadBytes 1).length = 1 then
    return (-1, [])
  return (0, [sw1, sw2])

/-- Lines 113-207: `to_recv`, the receive loop and the length check. -/
def receiveReply (tx : List UInt8) (txLen : UInt8) : StateM Board (Int × List UInt8) := do
  let toRecv := toRecv (fun i => tx.getD i 0) txLen
  let rx ← onIncoming (receiveLoop toRecv [])
  if (rx.length : Int) ≠ toRecv ∧ toRecv ≠ 65535 then
    return (-1, rx)
  let _ ← uartGetBufferedDataLen
  return (0, rx)

/-- `_transmit_raw(rx, &rx_len, tx, tx_len)`: the result and `rx[0 .. rx_len)`, empty when the code
returns before storing anything.  `tx` is the memory the command pointer designates. -/
def transmitRaw (tx : List UInt8) (txLen : UInt8) : StateM Board (Int × List UInt8) := do
  if txLen.toNat < 5 then
    return (-1, [])
  if (← sendAndClearEcho tx 5) ≠ 0 then
    return (-1, [])
  let some ack ← onIncoming (readProcedureByte (tx.getD 1 0)) | return (-1, [])
  if ack ≠ tx.getD 1 0 then
    statusWordReply ack
  else
    if txLen.toNat > 5 then
      if (← sendAndClearEcho (tx.drop 5) (txLen.toNat - 5)) ≠ 0 then
        return (-1, [])
    receiveReply tx txLen

/-! ## The two loops -/

section Loops
variable (toRecv : Int) (rx : List UInt8) (rest : List (Option UInt8))

theorem readProcedureByte_nulls (ins x : UInt8) (k : Nat) (notNull : ins ≠ 0x60)
    (stops : x = ins ∨ x ≠ 0x60) :
    readProcedureByte ins (List.replicate k (some 0x60) ++ some x :: rest) = (some x, rest) := by
  induction k with
  | zero => simp [readProcedureByte, stops]
  | succ k ih => simp [readProcedureByte, List.replicate_succ, Ne.symm notNull, ih]

theorem receiveLoop_nil : receiveLoop toRecv rx [] = (rx, []) := by
  rw [receiveLoop.eq_def]
  split <;> rfl

theorem receiveLoop_full (full : toRecv ≤ rx.length) : receiveLoop toRecv rx rest = (rx, rest) := by
  rw [receiveLoop.eq_def, if_neg (by omega)]

theorem receiveLoop_map_some_append (xs : List UInt8) (room : (rx.length + xs.length : Int) ≤ toRecv)
    (kept : toRecv = 2 → (0x60 : UInt8) ∉ xs) :
    receiveLoop toRecv rx (xs.map some ++ rest) = receiveLoop toRecv (rx ++ xs) rest := by
  induction xs generalizing rx with
  | nil => simp
  | cons x xs ih =>
      have next := ih (rx ++ [x]) (by simp at room ⊢; omega) (fun two => by simp_all)
      rw [receiveLoop.eq_def, if_pos (by simp at room; omega)]
      simp only [List.map_cons, List.cons_append]
      rw [if_neg (fun drop => kept drop.1 (by rw [← drop.2]; exact List.mem_cons_self _ _)), next,
        List.append_assoc, List.singleton_append]

theorem receiveLoop_map_some (xs : List UInt8) (room : (rx.length + xs.length : Int) ≤ toRecv)
    (kept : toRecv = 2 → (0x60 : UInt8) ∉ xs) :
    receiveLoop toRecv rx (xs.map some) = (rx ++ xs, []) := by
  simpa [receiveLoop_nil] using receiveLoop_map_some_append toRecv rx [] xs room kept

theorem receiveLoop_none (room : (rx.length : Int) < toRecv) :
    receiveLoop toRecv rx (none :: rest) = (rx, rest) := by
  rw [receiveLoop.eq_def, if_pos room]

theorem receiveLoop_nulls (k : Nat) (room : rx.length < 2) :
    receiveLoop 2 rx (List.replicate k (some 0x60) ++ rest) = receiveLoop 2 rx rest := by
  induction k with
  | zero => rfl
  | succ k ih =>
      rw [receiveLoop.eq_def, if_pos (by omega)]
      simpa [List.replicate_succ] using ih

theorem receiveLoop_length_le (room : (rx.length : Int) ≤ toRecv) :
    ((receiveLoop toRecv rx rest).1.length : Int) ≤ toRecv := by
  induction rest generalizing rx with
  | nil => rw [receiveLoop_nil]; exact room
  | cons e rest ih =>
      rw [receiveLoop.eq_def]
      split
      · cases e with
        | none => exact room
        | some x =>
            dsimp only
            split
            · exact ih rx room
            · exact ih _ (by simp; omega)
      · exact room

end Loops

/-! ## The exits and the paths to them -/

section Exchange
variable (b : Board) (tx : List UInt8) (txLen : UInt8)

theorem statusWordReply_two (sw1 sw2 : UInt8) :
    (statusWordReply sw1).run { b with incoming := [some sw2] } =
      ((0, [sw1, sw2]), { b with incoming := [] }) := rfl

theorem statusWordReply_silence (sw1 sw2 : UInt8) (rest : List (Option UInt8))
    (line : b.incoming = some sw2 :: none :: rest) :
    (statusWordReply sw1).run b = ((0, [sw1, sw2]), { b with incoming := rest }) := by
  cases b
  subst line
  rfl

theorem statusWordReply_success (sw1 : UInt8) (rx : List UInt8) (b' : Board)
    (run : (statusWordReply sw1).run b = ((0, rx), b')) :
    (∃ sw2, rx = [sw1, sw2]) ∧ b'.sent = b.sent := by
  simp only [statusWordReply, StateT.run_bind, uartReadBytes_run, Id.bind_eq] at run
  split at run
  · rename_i sw2 _
    simp only [StateT.run_bind, uartReadBytes_run, Id.bind_eq] at run
    split at run
    · cases run
    · cases run
      exact ⟨⟨sw2, rfl⟩, rfl⟩
  · cases run

theorem statusWordReply_length_le (sw1 : UInt8) : ((statusWordReply sw1).run b).1.2.length ≤ 2 := by
  simp only [statusWordReply, StateT.run_bind, uartReadBytes_run, Id.bind_eq]
  split
  · simp only [StateT.run_bind, uartReadBytes_run, Id.bind_eq]
    split <;> simp
  · simp

theorem statusWordReply_sent (sw1 : UInt8) : ((statusWordReply sw1).run b).2.sent = b.sent := by
  simp only [statusWordReply, StateT.run_bind, uartReadBytes_run, Id.bind_eq]
  split
  · simp only [StateT.run_bind, uartReadBytes_run, Id.bind_eq]
    split <;> rfl
  · rfl

theorem receiveReply_run :
    (receiveReply tx txLen).run b =
      let count := toRecv (fun i => tx.getD i 0) txLen
      let r := receiveLoop count [] b.incoming
      ((if (r.1.length : Int) ≠ count ∧ count ≠ 65535 then -1 else 0, r.1),
        { b with incoming := r.2 }) := by
  simp only [receiveReply, StateT.run_bind, onIncoming_run, Id.bind_eq]
  split <;> rfl

theorem receiveReply_sent : ((receiveReply tx txLen).run b).2.sent = b.sent := by
  rw [receiveReply_run]

theorem transmitRaw_short_command (short : txLen.toNat < 5) :
    (transmitRaw tx txLen).run b = ((-1, []), b) := by
  simp [transmitRaw, short]

theorem transmitRaw_after_pauses (five : 5 ≤ txLen.toNat) (k : Nat) (line : List (Option UInt8))
    (pauses : b.incoming = List.replicate k none ++ line) :
    (transmitRaw tx txLen).run b = (transmitRaw tx txLen).run { b with incoming := line } := by
  simp only [transmitRaw, if_neg (Nat.not_lt.mpr five), StateT.run_bind, StateT.run_pure, Id.bind_eq,
    Id.pure_eq, sendAndClearEcho_after_pauses tx 5 b k line pauses]

theorem transmitRaw_status_path (five : 5 ≤ txLen.toNat) (fits : 5 ≤ tx.length)
    (rest rest' : List (Option UInt8)) (sw1 : UInt8)
    (proc : readProcedureByte (tx.getD 1 0) rest = (some sw1, rest')) (notAck : sw1 ≠ tx.getD 1 0) :
    (transmitRaw tx txLen).run { b with incoming := (tx.take 5).map some ++ rest } =
      (statusWordReply sw1).run { b with sent := b.sent ++ tx.take 5, incoming := rest' } := by
  simp only [transmitRaw, if_neg (show ¬ txLen.toNat < 5 by omega), StateT.run_bind,
    StateT.run_pure, Id.bind_eq, Id.pure_eq, sendAndClearEcho_exact_echo tx 5 fits (by decide), ne_eq,
    not_true_eq_false, if_false, onIncoming_run, proc, if_pos notAck]

/-- `READ BINARY` whose header comes back as `00 00 00 00 00`: `strncmp` stops at the NUL both
start with, so the corrupted echo passes and the card's status word is returned. -/
theorem transmitRaw_accepts_corrupted_echo :
    ((transmitRaw [0x00, 0xB0, 0x00, 0x00, 0x02] 5).run
        { incoming := ([0x00, 0x00, 0x00, 0x00, 0x00, 0x6A, 0x82] : List UInt8).map some, sent := [],
          simOn := true, reset := true, answersToReset := [] }).1 = (0, [0x6A, 0x82]) := by
  decide

theorem transmitRaw_ack_path (five : 5 ≤ txLen.toNat) (fits : txLen.toNat ≤ tx.length)
    (rest rest' : List (Option UInt8))
    (proc : readProcedureByte (tx.getD 1 0) rest =
      (some (tx.getD 1 0), ((tx.drop 5).take (txLen.toNat - 5)).map some ++ rest')) :
    (transmitRaw tx txLen).run { b with incoming := (tx.take 5).map some ++ rest } =
      (receiveReply tx txLen).run { b with sent := b.sent ++ tx.take txLen.toNat, incoming := rest' } := by
  have whole : tx.take 5 ++ (tx.drop 5).take (txLen.toNat - 5) = tx.take txLen.toNat := by
    rw [← List.take_add, Nat.add_sub_cancel' five]
  simp only [transmitRaw, if_neg (show ¬ txLen.toNat < 5 by omega), StateT.run_bind,
    StateT.run_pure, Id.bind_eq, Id.pure_eq, sendAndClearEcho_exact_echo tx 5 (by omega) (by decide),
    ne_eq, not_true_eq_false, if_false, onIncoming_run, proc, not_not]
  by_cases body : txLen.toNat > 5
  · simp only [if_pos body, StateT.run_bind, Id.bind_eq,
      sendAndClearEcho_exact_echo (tx.drop 5) (txLen.toNat - 5) (by simp; omega) (by omega)
        { b with sent := b.sent ++ tx.take 5 } rest', if_false, not_true_eq_false, StateT.run_pure,
      Id.pure_eq, List.append_assoc, whole]
  · have empty : txLen.toNat - 5 = 0 := by omega
    simp only [if_neg body, empty, List.take_zero, List.map_nil, List.nil_append, StateT.run_bind,
      StateT.run_pure, Id.bind_eq, Id.pure_eq]
    rw [show txLen.toNat = 5 by omega]

theorem transmitRaw_cases (r : Int × List UInt8) (b' : Board)
    (run : (transmitRaw tx txLen).run b = (r, b')) :
    (r = (-1, []) ∧ ∃ k ∈ [0, 5, txLen.toNat], b'.sent = b.sent ++ tx.take k) ∨
      (∃ sw1 b₁, b₁.sent = b.sent ++ tx.take 5 ∧ (statusWordReply sw1).run b₁ = (r, b')) ∨
      ∃ b₁, b₁.sent = b.sent ++ tx.take txLen.toNat ∧ (receiveReply tx txLen).run b₁ = (r, b') := by
  have header := sendAndClearEcho_sent tx 5 b
  unfold transmitRaw at run
  by_cases short : txLen.toNat < 5
  · rw [if_pos short] at run
    cases run
    exact .inl ⟨rfl, 0, by simp, by simp⟩
  simp only [if_neg short, StateT.run_bind, StateT.run_pure, Id.bind_eq, Id.pure_eq] at run
  by_cases echoFail : ((sendAndClearEcho tx 5).run b).1 ≠ 0
  · rw [if_pos echoFail] at run
    cases run
    exact .inl ⟨rfl, 5, by simp, header⟩
  simp only [if_neg echoFail, StateT.run_bind, StateT.run_pure, Id.bind_eq, Id.pure_eq,
    onIncoming_run] at run
  rcases proc : readProcedureByte (tx.getD 1 0) ((sendAndClearEcho tx 5).run b).2.incoming with
    ⟨_ | ack, rest⟩
  · simp only [proc] at run
    cases run
    exact .inl ⟨rfl, 5, by simp, header⟩
  simp only [proc] at run
  by_cases notAck : ack ≠ tx.getD 1 0
  · rw [if_pos notAck] at run
    exact .inr (.inl ⟨ack, { ((sendAndClearEcho tx 5).run b).2 with incoming := rest }, header, run⟩)
  rw [if_neg notAck] at run
  by_cases body : txLen.toNat > 5
  · have whole : tx.take 5 ++ (tx.drop 5).take (txLen.toNat - 5) = tx.take txLen.toNat := by
      rw [← List.take_add, Nat.add_sub_cancel' (by omega)]
    have bodySent := sendAndClearEcho_sent (tx.drop 5) (txLen.toNat - 5)
      { ((sendAndClearEcho tx 5).run b).2 with incoming := rest }
    rw [header, List.append_assoc, whole] at bodySent
    simp only [if_pos body, StateT.run_bind, Id.bind_eq] at run
    by_cases bodyFail : ((sendAndClearEcho (tx.drop 5) (txLen.toNat - 5)).run
        { ((sendAndClearEcho tx 5).run b).2 with incoming := rest }).1 ≠ 0
    · rw [if_pos bodyFail] at run
      cases run
      exact .inl ⟨rfl, txLen.toNat, by simp, bodySent⟩
    simp only [if_neg bodyFail, StateT.run_bind, StateT.run_pure, Id.bind_eq, Id.pure_eq] at run
    exact .inr (.inr ⟨_, bodySent, run⟩)
  · simp only [if_neg body, StateT.run_bind, StateT.run_pure, Id.bind_eq, Id.pure_eq] at run
    exact .inr (.inr ⟨_, by rw [show txLen.toNat = 5 by omega]; exact header, run⟩)

theorem transmitRaw_sent :
    ∃ k ∈ [0, 5, txLen.toNat], ((transmitRaw tx txLen).run b).2.sent = b.sent ++ tx.take k := by
  rcases transmitRaw_cases b tx txLen _ _ rfl with ⟨-, sent⟩ | ⟨sw1, b₁, header, status⟩ |
      ⟨b₁, whole, receive⟩
  · exact sent
  · have kept := statusWordReply_sent b₁ sw1
    rw [status] at kept
    exact ⟨5, by simp, kept.trans header⟩
  · have kept := receiveReply_sent b₁ tx txLen
    rw [receive] at kept
    exact ⟨txLen.toNat, by simp, kept.trans whole⟩

end Exchange

/-! ## What a successful exchange stores -/

/-- A returned `0` leaves the two status bytes of a status-word answer, with only the header sent,
or the exact count of the case table, except where that count is the "undetermined" 65535: then
whatever arrived before the line fell silent is accepted, nothing included. -/
theorem transmitRaw_success_length (c : List UInt8) (lo : 5 ≤ c.length) (hi : c.length ≤ 255)
    (b b' : Board) (rx : List UInt8)
    (run : (transmitRaw c c.length.toUInt8).run b = ((0, rx), b')) :
    (rx.length = 2 ∧ b'.sent = b.sent ++ c.take 5) ∨ expectedLen c = 65535 ∨
      ((rx.length : Int) = expectedLen c ∧ 2 ≤ expectedLen c) := by
  rcases transmitRaw_cases b c _ _ b' run with ⟨failed, -⟩ | ⟨sw1, b₁, header, status⟩ |
      ⟨b₁, -, receive⟩
  · cases failed
  · obtain ⟨⟨sw2, rfl⟩, sent⟩ := statusWordReply_success b₁ sw1 rx b' status
    exact .inl ⟨rfl, sent.trans header⟩
  · rw [receiveReply_run, toRecv_eq_expectedLen_range _ c.length lo hi, range_map_eq c _ (fun _ _ => rfl)] at receive
    dsimp only at receive
    split at receive
    · cases receive
    · rename_i accepted
      cases receive
      by_cases undetermined : expectedLen c = 65535
      · exact .inr (.inl undetermined)
      · exact .inr (.inr ⟨by omega, expectedLen_ge_two c⟩)

/-- `READ BINARY` with `Le = 2` answered by its two data bytes and `90 00`. -/
theorem transmitRaw_readBinary_two_bytes :
    let c : List UInt8 := [0x00, 0xB0, 0x00, 0x00, 0x02]
    let b : Board := { incoming := (c ++ [0xB0, 0x11, 0x22, 0x90, 0x00]).map some, sent := [],
                       simOn := true, reset := true, answersToReset := [] }
    let result := (transmitRaw c c.length.toUInt8).run b
    result.1 = (0, [0x11, 0x22, 0x90, 0x00]) ∧
      ((result.1.2.length = 2 ∧ result.2.sent = b.sent ++ c.take 5) ∨ expectedLen c = 65535 ∨
        ((result.1.2.length : Int) = expectedLen c ∧ 2 ≤ expectedLen c)) :=
  ⟨rfl, transmitRaw_success_length _ (by decide) (by decide) _ _ _ rfl⟩

/-- With `Le = 0` the count is the "undetermined" 65535: a card that sends the ACK and then
nothing leaves `rx` empty, and the exchange still returns `0`. -/
theorem transmitRaw_accepts_empty_reply :
    ((transmitRaw [0x00, 0xB0, 0x00, 0x00, 0x00] 5).run
        { incoming := ([0x00, 0xB0, 0x00, 0x00, 0x00, 0xB0] : List UInt8).map some, sent := [],
          simOn := true, reset := true, answersToReset := [] }).1 = (0, []) := by
  decide

theorem transmitRaw_header_ack (b : Board) (c : List UInt8) (five : c.length = 5)
    (line : List (Option UInt8)) :
    (transmitRaw c 5).run { b with incoming := (c ++ [c.getD 1 0]).map some ++ line } =
      (receiveReply c 5).run { b with sent := b.sent ++ c, incoming := line } := by
  have header : c.take 5 = c := by rw [← five, List.take_length]
  have stream : (c ++ [c.getD 1 0]).map some ++ line =
      (c.take 5).map some ++ some (c.getD 1 0) :: line := by
    rw [header, List.map_append, List.append_assoc]
    rfl
  rw [stream, transmitRaw_ack_path b c 5 (by decide) (by rw [five]; decide) _ line
    (by rw [show (5 : UInt8).toNat - 5 = 0 from rfl, List.take_zero, List.map_nil, List.nil_append,
      readProcedureByte, if_pos (Or.inl rfl)]), show (5 : UInt8).toNat = 5 from rfl, header]

theorem transmitRaw_header_exact (b : Board) (c : List UInt8) (five : c.length = 5)
    (data : List UInt8) (line : List (Option UInt8))
    (exact : (data.length : Int) = leOrUndetermined (c.getD 4 0).toNat)
    (kept : leOrUndetermined (c.getD 4 0).toNat = 2 → (0x60 : UInt8) ∉ data) :
    (transmitRaw c 5).run { b with incoming := (c ++ [c.getD 1 0] ++ data).map some ++ line } =
      ((0, data), { b with sent := b.sent ++ c, incoming := line }) := by
  rw [List.map_append, List.append_assoc, transmitRaw_header_ack b c five, receiveReply_run,
    toRecv_header (fun i => c.getD i 0) 5 rfl]
  simp only [receiveLoop_map_some_append _ [] _ data (by simp only [List.length_nil]; omega) kept, List.nil_append,
    receiveLoop_full (leOrUndetermined (c.getD 4 0).toNat) data line (by omega), exact, ne_eq, not_true_eq_false, false_and, if_false]

theorem transmitRaw_header_only (b : Board) (c : List UInt8) (five : c.length = 5)
    (data : List UInt8) (room : (data.length : Int) ≤ leOrUndetermined (c.getD 4 0).toNat)
    (kept : leOrUndetermined (c.getD 4 0).toNat = 2 → (0x60 : UInt8) ∉ data) :
    (transmitRaw c 5).run { b with incoming := (c ++ [c.getD 1 0] ++ data).map some } =
      ((if (data.length : Int) ≠ leOrUndetermined (c.getD 4 0).toNat ∧
            leOrUndetermined (c.getD 4 0).toNat ≠ 65535 then -1 else 0, data),
        { b with sent := b.sent ++ c, incoming := [] }) := by
  rw [List.map_append, transmitRaw_header_ack b c five, receiveReply_run, toRecv_header (fun i => c.getD i 0) 5 rfl]
  simp only [receiveLoop_map_some _ [] data (by simpa using room) kept, List.nil_append]

/-- A card that keeps sending after `Le = 0`: `to_recv` is 65535 and all 265 bytes are stored
into the 264-byte response buffer. -/
theorem transmitRaw_overruns_rx_buffer :
    ((transmitRaw [0x00, 0xB0, 0x00, 0x00, 0x00] 5).run
        { incoming := (([0x00, 0xB0, 0x00, 0x00, 0x00] : List UInt8) ++ [0xB0] ++
            List.replicate 265 0xFF).map some,
          sent := [], simOn := true, reset := true, answersToReset := [] }).1 =
        (0, List.replicate 265 0xFF) ∧
      euiccInterfaceBufsz < (List.replicate 265 (0xFF : UInt8)).length := by
  have stores := transmitRaw_header_only
    { incoming := [], sent := [], simOn := true, reset := true, answersToReset := [] }
    [0x00, 0xB0, 0x00, 0x00, 0x00] rfl (List.replicate 265 0xFF)
    (by rw [List.length_replicate]; decide) (fun two => absurd two (by decide))
  rw [show ([0x00, 0xB0, 0x00, 0x00, 0x00] : List UInt8).getD 1 0 = 0xB0 from rfl] at stores
  dsimp only at stores
  refine ⟨?_, by rw [List.length_replicate]; decide⟩
  rw [stores, if_neg (fun mismatch => mismatch.2 rfl)]

/-! ## The response buffer -/

section Buffer

variable (c : List UInt8) (lo : 5 ≤ c.length) (hi : c.length ≤ 255)
include lo hi

theorem transmitRaw_stored_le (b : Board) :
    (((transmitRaw c c.length.toUInt8).run b).1.2.length : Int) ≤ expectedLen c := by
  have two := expectedLen_ge_two c
  obtain ⟨r, b', run⟩ : ∃ r b', (transmitRaw c c.length.toUInt8).run b = (r, b') := ⟨_, _, rfl⟩
  rw [run]
  rcases transmitRaw_cases b c _ r b' run with ⟨failed, -⟩ | ⟨sw1, b₁, -, status⟩ |
      ⟨b₁, -, receive⟩
  · rw [failed, List.length_nil]
    omega
  · have stored := statusWordReply_length_le b₁ sw1
    rw [status] at stored
    omega
  · rw [receiveReply_run, toRecv_eq_expectedLen_range _ c.length lo hi, range_map_eq c _ (fun _ _ => rfl)] at receive
    rw [← (Prod.mk.inj receive).1]
    exact receiveLoop_length_le _ [] _ (by rw [List.length_nil]; omega)

theorem transmitRaw_stores_reply (b : Board) (data : List UInt8)
    (room : (data.length : Int) ≤ expectedLen c) (kept : expectedLen c = 2 → (0x60 : UInt8) ∉ data) :
    ((transmitRaw c c.length.toUInt8).run { b with
        incoming := (c.take 5).map some ++ (some (c.getD 1 0) :: ((c.drop 5).map some ++ data.map some)) }).1.2 =
      data := by
  have len := toNat_toUInt8_of_lt c.length (by omega)
  have body : (c.drop 5).take (c.length.toUInt8.toNat - 5) = c.drop 5 :=
    List.take_of_length_le (by rw [List.length_drop, len])
  rw [transmitRaw_ack_path b c _ (by omega) (by omega) _ (data.map some)
      (by rw [readProcedureByte, if_pos (Or.inl rfl), body]),
    receiveReply_run, toRecv_eq_expectedLen_range _ c.length lo hi, range_map_eq c _ (fun _ _ => rfl)]
  simp only [receiveLoop_map_some _ [] data (by simpa using room) kept, List.nil_append]

/-- For every command of 5 to 255 bytes, the `EUICC_INTERFACE_BUFSZ` bytes that
`apdu_interface_transmit` allocates hold whatever `_transmit_raw` stores, for every card, exactly
when the case table's count is at most that size: the store never passes the count, and past it a
card that ACKs and keeps sending fills the buffer and more. -/
theorem transmitRaw_fits_buffer_iff :
    (∀ b : Board, ((transmitRaw c c.length.toUInt8).run b).1.2.length ≤ euiccInterfaceBufsz) ↔
      expectedLen c ≤ euiccInterfaceBufsz := by
  constructor
  · intro fits
    by_contra over
    have size : euiccInterfaceBufsz = 264 := rfl
    have flood := transmitRaw_stores_reply c lo hi ⟨[], [], false, false, []⟩
      (List.replicate (euiccInterfaceBufsz + 1) 0xFF) (by rw [List.length_replicate]; omega)
      (fun two => (by omega : False).elim)
    have stored := fits { (⟨[], [], false, false, []⟩ : Board) with
      incoming := (c.take 5).map some ++ (some (c.getD 1 0) :: ((c.drop 5).map some ++
        (List.replicate (euiccInterfaceBufsz + 1) 0xFF).map some)) }
    rw [flood, List.length_replicate] at stored
    omega
  · intro bounded b
    have stored := transmitRaw_stored_le c lo hi b
    omega

end Buffer

/-- `READ BINARY` of two bytes: a count of 4. -/
theorem transmitRaw_fits_buffer_read_binary :
    5 ≤ [0x00, 0xB0, 0x00, 0x00, 0x02].length ∧ [0x00, 0xB0, 0x00, 0x00, 0x02].length ≤ 255 ∧
      ((∀ b : Board, ((transmitRaw [0x00, 0xB0, 0x00, 0x00, 0x02]
          [0x00, 0xB0, 0x00, 0x00, 0x02].length.toUInt8).run b).1.2.length ≤ euiccInterfaceBufsz) ↔
        expectedLen [0x00, 0xB0, 0x00, 0x00, 0x02] ≤ euiccInterfaceBufsz) :=
  ⟨by decide, by decide, transmitRaw_fits_buffer_iff _ (by decide) (by decide)⟩

end LpacEspidf.Apdu
