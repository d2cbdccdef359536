import LpacEspidf.Apdu.TransmitRaw
import LpacEspidf.Apdu.Atr

/-!
# The APDU interface

The entry points `driver/apdu/espidf.c` puts into `euicc_apdu_interface`: `connect` resets the card,
reads its ATR and sends `TERMINAL CAPABILITIES`; `logic_channel_open` sends `MANAGE CHANNEL OPEN`
and then a `SELECT` of the caller's AID on the channel the card gave; `logic_channel_close` sends the
fixed `APDU_CLOSELOGICCHANNEL`; `transmit` runs one exchange into a fresh buffer.

`apduInterfaceConnect_writes_after_atr` says that `connect` writes to the card only after an ATR
from the card's next answer to reset, whatever came before.  `apduInterfaceTransmit_rejects_long` is the narrowing of the `uint32_t` length to the `uint8_t`
parameter of `_transmit_raw`; `apduInterfaceLogicChannelOpen_success` says what a returned channel
rests on, for every reply of the card.
-/

set_option autoImplicit false

namespace LpacEspidf.Apdu

def apduTerminalCapabilities : List UInt8 :=
  [0x80, 0xAA, 0x00, 0x00, 0x0A, 0xA9, 0x08, 0x81, 0x00, 0x82, 0x01, 0x01, 0x83, 0x01, 0x07]

def apduOpenLogicChannel : List UInt8 := [0x00, 0x70, 0x00, 0x00, 0x01]

def apduCloseLogicChannel : List UInt8 := [0x00, 0x70, 0x80, 0xFF, 0x00]

def apduSelectHeader : List UInt8 := [0x00, 0xA4, 0x04, 0x00, 0xFF]

/-- `apdu_interface_connect`; the retry loop runs once.  The answer to `TERMINAL CAPABILITIES` goes
into a local buffer and only the result is returned. -/
def apduInterfaceConnect : StateM Board Int := do
  resetCard
  if (← waitForCard) = 0 then
    return (← transmitRaw apduTerminalCapabilities apduTerminalCapabilities.length.toUInt8).1
  return -1

def apduInterfaceDisconnect : StateM Board Unit := do
  gpioSetLevel .reset false
  gpioSetLevel .simOn false

/-- `libapduinterface_init` as far as the line goes: both control lines low.  The UART and pin
configuration and the filling-in of `euicc_apdu_interface` are outside the model. -/
def libapduinterfaceInit : StateM Board Int := do
  gpioSetLevel .simOn false
  gpioSetLevel .reset false
  pure 0

/-- `libapduinterface_fini`: the UART driver deleted, both control lines low. -/
def libapduinterfaceFini : StateM Board Unit := do
  gpioSetLevel .reset false
  gpioSetLevel .simOn false

/-- The `aid_len` bytes at `aid`, as the caller passes them. -/
structure Aid where
  bytes : List UInt8
  length_lt : bytes.length < 256

/-- The `SELECT` of `apdu_interface_logic_channel_open`: `APDU_SELECT_HEADER` and the AID, then
`tx_buf[0] = (tx_buf[0] & 0xF0) | channel` and `tx_buf[4] = aid_len`. -/
def selectCommand (channel : UInt8) (aid : Aid) : List UInt8 :=
  ((apduSelectHeader ++ aid.bytes).set 0 ((apduSelectHeader.getD 0 0 &&& 0xF0) ||| channel)).set 4
    aid.bytes.length.toUInt8

/-- `apdu_interface_logic_channel_open`: the channel number, or -1. -/
def apduInterfaceLogicChannelOpen (aid : Aid) : StateM Board Int := do
  let (r, rx) ← transmitRaw apduOpenLogicChannel apduOpenLogicChannel.length.toUInt8
  if r ≠ 0 then
    return -1
  if rx.length ≠ 3 then
    return -1
  if rx.getD 1 0 &&& 0xF0 ≠ 0x90 then
    return -1
  let channel := rx.getD 0 0
  let txLen : Nat := apduSelectHeader.length + aid.bytes.length
  let (r, rx) ← transmitRaw (selectCommand channel aid) txLen.toUInt8
  if r ≠ 0 then
    return -1
  if rx.length < 2 then
    return -1
  if rx.getD (rx.length - 2) 0 = 0x90 ∨ rx.getD (rx.length - 2) 0 = 0x61 then
    return channel.toNat
  return -1

/-- `apdu_interface_logic_channel_close`: the exchange's result is ignored. -/
def apduInterfaceLogicChannelClose (channel : UInt8) : StateM Board Unit := do
  if channel ≠ 0 then
    discard <| transmitRaw apduCloseLogicChannel apduCloseLogicChannel.length.toUInt8

/-- What `apdu_interface_transmit` leaves in `*rx`. -/
inductive RxBuffer where
  /-- `malloc` failed: `*rx` is `NULL` and `*rx_len` is not written. -/
  | null
  /-- The exchange failed: the buffer is freed and `*rx_len` is 0. -/
  | freed
  /-- The buffer handed to the caller, with `rx[0 .. *rx_len)`. -/
  | response (bytes : List UInt8)
deriving DecidableEq, Repr

/-- `apdu_interface_transmit`; `mallocOk` is whether `malloc(EUICC_INTERFACE_BUFSZ)` succeeds. -/
def apduInterfaceTransmit (tx : List UInt8) (txLen : UInt32) (mallocOk : Bool) :
    StateM Board (Int × RxBuffer) := do
  if !mallocOk then
    return (-1, .null)
  let (r, rx) ← transmitRaw tx txLen.toUInt8
  if r ≠ 0 then
    return (-1, .freed)
  return (0, .response rx)

/-! ## Connect -/

/-- Whatever the levels of the control lines and whatever is still on the line, `connect` writes to
the card only once the card's next answer to reset has begun with an ATR that `_wait_for_card`
accepts, and then writes the header or the whole of `TERMINAL CAPABILITIES`. -/
theorem apduInterfaceConnect_writes_after_atr (b : Board) :
    (apduInterfaceConnect.run b).2.sent = b.sent ∨
      (∃ k t0 xs ys rest, t0 ≠ 0x3B ∧ xs.length = interfaceCount t0 ∧ ys.length = t0.toNat &&& 0xF ∧
        b.answersToReset.headD [] = (0x3B :: List.replicate k 0x3B ++ t0 :: (xs ++ ys)).map some ++ rest) ∧
      ∃ n ∈ [5, apduTerminalCapabilities.length],
        (apduInterfaceConnect.run b).2.sent = b.sent ++ apduTerminalCapabilities.take n := by
  simp only [apduInterfaceConnect, StateT.run_bind, Id.bind_eq]
  rcases atr : waitForCard.run (resetCard.run b).2 with ⟨r, b₁⟩
  obtain ⟨l, frame⟩ := waitForCard_onlyReads (resetCard.run b).2
  rw [atr] at frame
  have kept : b₁.sent = b.sent := by rw [show b₁ = _ from frame, resetCard_run]
  by_cases accepted : r = 0
  · subst accepted
    obtain ⟨k, t0, xs, ys, rest, notTs, xsLength, ysLength, line, -⟩ :=
      atr_of_waitForCard_accepts _ atr
    rw [resetCard_run] at line
    obtain ⟨n, mem, sent⟩ :=
      transmitRaw_sent b₁ apduTerminalCapabilities apduTerminalCapabilities.length.toUInt8
    simp only [if_true, StateT.run_bind, StateT.run_pure, Id.bind_eq, Id.pure_eq, sent, kept]
    rcases List.mem_cons.mp mem with rfl | header
    · exact .inl (List.append_nil _)
    · exact .inr ⟨⟨k, t0, xs, ys, rest, notTs, xsLength, ysLength, line⟩, n, header, rfl⟩
  · left
    simp only [if_neg accepted, StateT.run_bind, StateT.run_pure, Id.bind_eq, Id.pure_eq, kept]

/-! ## Transmit -/

section Transmit
variable (tx : List UInt8) (txLen : UInt32) (b : Board)

theorem apduInterfaceTransmit_run :
    (apduInterfaceTransmit tx txLen true).run b =
      let r := (transmitRaw tx txLen.toUInt8).run b
      (if r.1.1 ≠ 0 then (-1, .freed) else (0, .response r.1.2), r.2) := by
  simp only [apduInterfaceTransmit, Bool.not_true, Bool.false_eq_true, if_false, StateT.run_bind,
    StateT.run_pure, Id.bind_eq, Id.pure_eq]
  by_cases failed : ((transmitRaw tx txLen.toUInt8).run b).1.1 ≠ 0
  · rw [if_pos failed, if_pos failed]
    rfl
  · rw [if_neg failed, if_neg failed]
    rfl

theorem apduInterfaceTransmit_sent (mallocOk : Bool) :
    ∃ k ∈ [0, 5, txLen.toNat % 256],
      ((apduInterfaceTransmit tx txLen mallocOk).run b).2.sent = b.sent ++ tx.take k := by
  cases mallocOk with
  | false => exact ⟨0, by simp, by simp [apduInterfaceTransmit]⟩
  | true =>
      rw [apduInterfaceTransmit_run]
      exact transmitRaw_sent b tx txLen.toUInt8

theorem apduInterfaceTransmit_rejects_long (long : 256 ≤ txLen.toNat) (upTo : txLen.toNat ≤ 260) :
    (apduInterfaceTransmit tx txLen true).run b = ((-1, .freed), b) := by
  have narrowed : txLen.toUInt8.toNat < 5 := by
    show txLen.toNat % 256 < 5
    omega
  rw [apduInterfaceTransmit_run, transmitRaw_short_command b tx _ narrowed]
  rfl

end Transmit

/-- `STORE DATA` with 251 data bytes, 256 bytes in all: nothing reaches the card and the call
fails, whatever the board. -/
theorem apduInterfaceTransmit_drops_store_data :
    ∀ b : Board, (apduInterfaceTransmit ([0x80, 0xE2, 0x91, 0x00, 0xFB] ++ List.replicate 251 0) 256
      true).run b = ((-1, .freed), b) := by
  intro b
  rw [apduInterfaceTransmit_run, transmitRaw_short_command b _ _ (by decide)]
  rfl

/-! ## Opening a channel -/

theorem selectCommand_eq (channel : UInt8) (aid : Aid) :
    selectCommand channel aid =
      [channel, 0xA4, 0x04, 0x00, aid.bytes.length.toUInt8] ++ aid.bytes := by
  have cla : ((0 : UInt8) &&& 0xF0) ||| channel = channel := by
    apply UInt8.eq_of_val_eq
    apply Fin.ext
    show (0 &&& 0xF0) ||| channel.toNat = channel.toNat
    rw [Nat.zero_and, Nat.zero_or]
  simp only [selectCommand, apduSelectHeader, List.cons_append, List.nil_append, List.getD_cons_zero,
    List.set_cons_zero, List.set_cons_succ, cla]

theorem transmitRaw_success_sent (tx : List UInt8) (txLen : UInt8) (b b' : Board) (rx : List UInt8)
    (run : (transmitRaw tx txLen).run b = ((0, rx), b')) :
    b'.sent = b.sent ++ tx.take 5 ∨ b'.sent = b.sent ++ tx.take txLen.toNat := by
  rcases transmitRaw_cases b tx txLen _ _ run with ⟨failed, -⟩ | ⟨sw1, b₁, header, status⟩ |
      ⟨b₁, whole, receive⟩
  · cases failed
  · have kept := statusWordReply_sent b₁ sw1
    rw [status] at kept
    exact .inl (kept.trans header)
  · have kept := receiveReply_sent b₁ tx txLen
    rw [receive] at kept
    exact .inr (kept.trans whole)

theorem apduInterfaceLogicChannelOpen_run_of (aid : Aid) (b b₁ b₂ : Board) (channel sw1 sw2 : UInt8)
    (rx : List UInt8)
    (mco : (transmitRaw apduOpenLogicChannel 5).run b = ((0, [channel, sw1, sw2]), b₁))
    (nine : sw1 &&& 0xF0 = 0x90)
    (select : (transmitRaw ([channel, 0xA4, 0x04, 0x00, aid.bytes.length.toUInt8] ++ aid.bytes)
      (5 + aid.bytes.length).toUInt8).run b₁ = ((0, rx), b₂))
    (long : 2 ≤ rx.length)
    (answered : rx.getD (rx.length - 2) 0 = 0x90 ∨ rx.getD (rx.length - 2) 0 = 0x61) :
    (apduInterfaceLogicChannelOpen aid).run b = ((channel.toNat : Int), b₂) := by
  have headerLength : apduSelectHeader.length = 5 := rfl
  have openLength : apduOpenLogicChannel.length.toUInt8 = 5 := rfl
  have three : [channel, sw1, sw2].length = 3 := rfl
  have first : [channel, sw1, sw2].getD 0 0 = channel := rfl
  have second : [channel, sw1, sw2].getD 1 0 = sw1 := rfl
  simp only [apduInterfaceLogicChannelOpen, StateT.run_bind, Id.bind_eq, headerLength, openLength, mco,
    three, first, second, nine, ne_eq, not_true_eq_false, if_false, StateT.run_pure, Id.pure_eq,
    selectCommand_eq, select, if_neg (show ¬ rx.length < 2 by omega), if_pos answered]

theorem apduInterfaceLogicChannelOpen_accepts_any_channel (aid : Aid) (fits : aid.bytes.length ≤ 250)
    (ch : UInt8) (b : Board) :
    let select : List UInt8 := [ch, 0xA4, 0x04, 0x00, aid.bytes.length.toUInt8]
    (apduInterfaceLogicChannelOpen aid).run
        { b with incoming := (apduOpenLogicChannel ++ [0x70, ch, 0x90, 0x00] ++ select ++ [0x90, 0x00]).map some } =
      ((ch.toNat : Int), { b with sent := b.sent ++ apduOpenLogicChannel ++ select, incoming := [] }) := by
  intro select
  have mco := transmitRaw_header_exact b apduOpenLogicChannel rfl [ch, 0x90, 0x00]
    ((select ++ [0x90, 0x00]).map some) rfl (fun three => absurd three (by decide))
  have header : (select ++ aid.bytes).take 5 = select := List.take_left' rfl
  have length : ((5 + aid.bytes.length).toUInt8).toNat = 5 + aid.bytes.length := by
    show (5 + aid.bytes.length) % 256 = _
    omega
  have status := transmitRaw_status_path { b with sent := b.sent ++ apduOpenLogicChannel }
    (select ++ aid.bytes) (5 + aid.bytes.length).toUInt8 (by omega) (by simp [select])
    [some 0x90, some 0x00] [some 0x00] 0x90 rfl (by show (0x90 : UInt8) ≠ 0xA4; decide)
  rw [header] at status
  refine apduInterfaceLogicChannelOpen_run_of aid _ _ _ ch 0x90 0x00 [0x90, 0x00] ?_ (by decide)
    (status.trans (statusWordReply_two { b with sent := b.sent ++ apduOpenLogicChannel ++ select }
      0x90 0x00)) (by decide) (.inl rfl)
  exact mco

/-- `MANAGE CHANNEL OPEN` answered with `04 90 00`: channel 4 is returned, and the `SELECT` went out
with `CLA = 04`. -/
theorem apduInterfaceLogicChannelOpen_returns_channel_four :
    ((apduInterfaceLogicChannelOpen ⟨[0x3F, 0x00], by decide⟩).run
      { incoming := (apduOpenLogicChannel ++ [0x70, 0x04, 0x90, 0x00] ++ [0x04, 0xA4, 0x04, 0x00, 0x02] ++
          [0x90, 0x00]).map some,
        sent := [], simOn := true, reset := true, answersToReset := [] }) =
      (4, { incoming := [], sent := apduOpenLogicChannel ++ [0x04, 0xA4, 0x04, 0x00, 0x02],
            simOn := true, reset := true, answersToReset := [] }) :=
  apduInterfaceLogicChannelOpen_accepts_any_channel ⟨[0x3F, 0x00], by decide⟩ (by decide) 0x04
    { incoming := [], sent := [], simOn := true, reset := true, answersToReset := [] }

theorem apduInterfaceLogicChannelOpen_cases (aid : Aid) (b b' : Board) (c : Int)
    (run : (apduInterfaceLogicChannelOpen aid).run b = (c, b')) :
    (c = -1 ∧ b' = ((transmitRaw apduOpenLogicChannel 5).run b).2) ∨
      ∃ channel sw1 sw2 b₁ r rx,
        (transmitRaw apduOpenLogicChannel 5).run b = ((0, [channel, sw1, sw2]), b₁) ∧
        sw1 &&& 0xF0 = 0x90 ∧
        (transmitRaw ([channel, 0xA4, 0x04, 0x00, aid.bytes.length.toUInt8] ++ aid.bytes)
          (5 + aid.bytes.length).toUInt8).run b₁ = ((r, rx), b') ∧
        (c = -1 ∨ c = channel.toNat ∧ r = 0 ∧ 2 ≤ rx.length ∧
          (rx.getD (rx.length - 2) 0 = 0x90 ∨ rx.getD (rx.length - 2) 0 = 0x61)) := by
  have headerLength : apduSelectHeader.length = 5 := rfl
  have openLength : apduOpenLogicChannel.length.toUInt8 = 5 := rfl
  simp only [apduInterfaceLogicChannelOpen, StateT.run_bind, Id.bind_eq, headerLength,
    openLength] at run
  rcases mco : (transmitRaw apduOpenLogicChannel 5).run b with ⟨⟨r₁, rx₁⟩, b₁⟩
  simp only [mco] at run
  by_cases failed₁ : r₁ ≠ 0
  · rw [if_pos failed₁] at run
    cases run
    exact .inl ⟨rfl, rfl⟩
  rw [if_neg failed₁] at run
  obtain rfl : r₁ = 0 := not_not.mp failed₁
  by_cases three : rx₁.length ≠ 3
  · rw [if_pos three] at run
    cases run
    exact .inl ⟨rfl, rfl⟩
  rw [if_neg three] at run
  obtain ⟨channel, sw1, sw2, rfl⟩ : ∃ channel sw1 sw2, rx₁ = [channel, sw1, sw2] := by
    match rx₁, not_not.mp three with
    | [channel, sw1, sw2], _ => exact ⟨channel, sw1, sw2, rfl⟩
  by_cases notNine : [channel, sw1, sw2].getD 1 0 &&& 0xF0 ≠ 0x90
  · rw [if_pos notNine] at run
    cases run
    exact .inl ⟨rfl, rfl⟩
  rw [if_neg notNine] at run
  simp only [StateT.run_bind, StateT.run_pure, Id.bind_eq, Id.pure_eq, selectCommand_eq,
    List.getD_cons_zero] at run
  rcases sel : (transmitRaw ([channel, 0xA4, 0x04, 0x00, aid.bytes.length.toUInt8] ++ aid.bytes)
      (5 + aid.bytes.length).toUInt8).run b₁ with ⟨⟨r₂, rx₂⟩, b₂⟩
  simp only [sel] at run
  suffices selected : b₂ = b' ∧ (c = -1 ∨ c = channel.toNat ∧ r₂ = 0 ∧ 2 ≤ rx₂.length ∧
      (rx₂.getD (rx₂.length - 2) 0 = 0x90 ∨ rx₂.getD (rx₂.length - 2) 0 = 0x61)) by
    obtain ⟨rfl, result⟩ := selected
    exact .inr ⟨channel, sw1, sw2, b₁, r₂, rx₂, rfl, not_not.mp notNine, sel, result⟩
  by_cases failed₂ : r₂ ≠ 0
  · rw [if_pos failed₂] at run
    cases run
    exact ⟨rfl, .inl rfl⟩
  rw [if_neg failed₂] at run
  by_cases short : rx₂.length < 2
  · rw [if_pos short] at run
    cases run
    exact ⟨rfl, .inl rfl⟩
  rw [if_neg short] at run
  by_cases answered : rx₂.getD (rx₂.length - 2) 0 = 0x90 ∨ rx₂.getD (rx₂.length - 2) 0 = 0x61
  · rw [if_pos answered] at run
    cases run
    exact ⟨rfl, .inr ⟨rfl, not_not.mp failed₂, by omega, answered⟩⟩
  · rw [if_neg answered] at run
    cases run
    exact ⟨rfl, .inl rfl⟩

/-- A channel number returned by `logic_channel_open` is the first byte of a three-byte answer to
`MANAGE CHANNEL OPEN` whose second byte is `9X`, any byte at all; the `SELECT` that follows carries
it as its whole `CLA`, is sent as its header or in full, and is answered with `90` or `61` two bytes
before the end.  An AID of more than 250 bytes is never selected. -/
theorem apduInterfaceLogicChannelOpen_success (aid : Aid) (b b' : Board) (c : Int)
    (run : (apduInterfaceLogicChannelOpen aid).run b = (c, b')) (opened : 0 ≤ c) :
    ∃ channel sw1 sw2 b₁ rx,
      let select := [channel, 0xA4, 0x04, 0x00, aid.bytes.length.toUInt8] ++ aid.bytes
      c = channel.toNat ∧ aid.bytes.length ≤ 250 ∧
        (transmitRaw apduOpenLogicChannel 5).run b = ((0, [channel, sw1, sw2]), b₁) ∧
        sw1 &&& 0xF0 = 0x90 ∧
        (transmitRaw select (5 + aid.bytes.length).toUInt8).run b₁ = ((0, rx), b') ∧
        (b'.sent = b₁.sent ++ select.take 5 ∨ b'.sent = b₁.sent ++ select) ∧
        2 ≤ rx.length ∧ (rx.getD (rx.length - 2) 0 = 0x90 ∨ rx.getD (rx.length - 2) 0 = 0x61) := by
  rcases apduInterfaceLogicChannelOpen_cases aid b b' c run with ⟨rfl, -⟩ |
      ⟨channel, sw1, sw2, b₁, r, rx, mco, nine, sel, rfl | ⟨rfl, rfl, long, answered⟩⟩
  · exact absurd opened (by decide)
  · exact absurd opened (by decide)
  have fits : aid.bytes.length ≤ 250 := by
    by_contra long
    have narrowed : ((5 + aid.bytes.length).toUInt8).toNat < 5 := by
      show (5 + aid.bytes.length) % 256 < 5
      have := aid.length_lt
      omega
    rw [transmitRaw_short_command b₁ _ _ narrowed] at sel
    cases sel
  have sent := transmitRaw_success_sent _ _ b₁ _ rx sel
  have whole : ((5 + aid.bytes.length).toUInt8).toNat =
      ([channel, 0xA4, 0x04, 0x00, aid.bytes.length.toUInt8] ++ aid.bytes).length := by
    show (5 + aid.bytes.length) % 256 = _
    simp only [List.length_append, List.length_cons, List.length_nil]
    omega
  rw [whole, List.take_length] at sent
  exact ⟨channel, sw1, sw2, b₁, rx, rfl, fits, mco, nine, sel, sent, long, answered⟩

/-- Channel 1 for a two-byte AID, the `SELECT` answered at once with `90 00`. -/
theorem apduInterfaceLogicChannelOpen_channel_one :
    let aid : Aid := ⟨[0x3F, 0x00], by decide⟩
    let b : Board :=
      { incoming := (apduOpenLogicChannel ++ [0x70, 0x01, 0x90, 0x00] ++ [0x01, 0xA4, 0x04, 0x00, 0x02] ++
          [0x90, 0x00]).map some,
        sent := [], simOn := true, reset := true, answersToReset := [] }
    let result := (apduInterfaceLogicChannelOpen aid).run b
    0 ≤ result.1 ∧ ∃ channel sw1 sw2 b₁ rx,
      let select := [channel, 0xA4, 0x04, 0x00, aid.bytes.length.toUInt8] ++ aid.bytes
      result.1 = channel.toNat ∧ aid.bytes.length ≤ 250 ∧
        (transmitRaw apduOpenLogicChannel 5).run b = ((0, [channel, sw1, sw2]), b₁) ∧
        sw1 &&& 0xF0 = 0x90 ∧
        (transmitRaw select (5 + aid.bytes.length).toUInt8).run b₁ = ((0, rx), result.2) ∧
        (result.2.sent = b₁.sent ++ select.take 5 ∨ result.2.sent = b₁.sent ++ select) ∧
        2 ≤ rx.length ∧ (rx.getD (rx.length - 2) 0 = 0x90 ∨ rx.getD (rx.length - 2) 0 = 0x61) := by
  intro aid b result
  have run : result = (1, _) := apduInterfaceLogicChannelOpen_accepts_any_channel aid (by decide) 0x01
    { incoming := [], sent := [], simOn := true, reset := true, answersToReset := [] }
  rw [run]
  exact ⟨by decide, apduInterfaceLogicChannelOpen_success aid b _ 1 run (by decide)⟩

/-! ## What opening and closing write -/

theorem apduInterfaceLogicChannelOpen_sent (aid : Aid) (b : Board) :
    ∃ k ∈ [0, 5, 5], ∃ channel k',
      ((apduInterfaceLogicChannelOpen aid).run b).2.sent = b.sent ++ apduOpenLogicChannel.take k ++
        ([channel, 0xA4, 0x04, 0x00, aid.bytes.length.toUInt8] ++ aid.bytes).take k' := by
  obtain ⟨k, mem, sent₁⟩ := transmitRaw_sent b apduOpenLogicChannel 5
  rcases apduInterfaceLogicChannelOpen_cases aid b ((apduInterfaceLogicChannelOpen aid).run b).2 _ rfl
      with ⟨-, same⟩ |
      ⟨channel, sw1, sw2, b₁, r, rx, mco, -, sel, -⟩
  · exact ⟨k, mem, 0, 0, by rw [same, sent₁, List.take_zero, List.append_nil]⟩
  · rw [mco] at sent₁
    obtain ⟨k', -, sent₂⟩ := transmitRaw_sent b₁
      ([channel, 0xA4, 0x04, 0x00, aid.bytes.length.toUInt8] ++ aid.bytes) (5 + aid.bytes.length).toUInt8
    rw [sel] at sent₂
    exact ⟨k, mem, channel, k', by rw [sent₂, sent₁]⟩

theorem apduInterfaceLogicChannelClose_sent (channel : UInt8) (b : Board) :
    ((apduInterfaceLogicChannelClose channel).run b).2.sent = b.sent ∨
      ((apduInterfaceLogicChannelClose channel).run b).2.sent = b.sent ++ apduCloseLogicChannel := by
  have exchange : ((apduInterfaceLogicChannelClose channel).run b).2 =
      if channel ≠ 0 then ((transmitRaw apduCloseLogicChannel 5).run b).2 else b := by
    unfold apduInterfaceLogicChannelClose
    split <;> rfl
  rw [exchange]
  split
  · obtain ⟨k, mem, sent⟩ := transmitRaw_sent b apduCloseLogicChannel 5
    simp only [List.mem_cons, List.mem_singleton, List.not_mem_nil, or_false] at mem
    rcases mem with rfl | rfl | rfl
    · exact .inl (by rw [sent, List.take_zero, List.append_nil])
    · exact .inr sent
    · exact .inr sent
  · exact .inl rfl

end LpacEspidf.Apdu
