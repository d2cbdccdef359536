import LpacEspidf.Apdu.TransmitRaw

/-!
# A T=0 card on the line

What one exchange of the driver is up against: a short command of ISO 7816-3 case 1, 2S or 3S, and
an answer the T=0 rules allow the card to give to it, NULL procedure bytes (`0x60`) included, on a
line that echoes every byte the driver writes and falls silent after the card's last byte.
`CardAnswer.stream` is what the driver then reads.

`transmitRaw_t0_exchange` says the driver returns the response APDU for every such exchange in which
no NULL byte comes between the data and `SW1` of a case 1 or 2S command: with more than two bytes
to wait for, the receive loop stores every byte (`transmitRaw_t0_counts_nulls`).  After the data of
a case 3S command it waits for two and its NULL filter also drops an `SW2` of `0x60`, which the
status-word path keeps (`transmitRaw_drops_sw2_null`).
-/

set_option autoImplicit false

namespace LpacEspidf.Card

open LpacEspidf.Apdu

/-- A status byte `SW1`: `6X` or `9X`, and not the NULL byte. -/
def statusByte (sw1 : UInt8) : Prop := (sw1 >>> 4 = 6 ∨ sw1 >>> 4 = 9) ∧ sw1 ≠ 0x60

instance (sw1 : UInt8) : Decidable (statusByte sw1) := inferInstanceAs (Decidable (_ ∧ _))

theorem toNat_ne_zero {x : UInt8} (nonzero : x ≠ 0) : x.toNat ≠ 0 :=
  fun zero => nonzero (UInt8.eq_of_val_eq (Fin.ext zero))

/-- A short command: the header `CLA INS P1 P2 P3` and, for case 3S, `P3 ≥ 1` data bytes; for
cases 1 and 2S, `P3` is `Le` (0 for none or 256).  `INS` is not `6X` or `9X`. -/
structure ShortCommand where
  cla : UInt8
  ins : UInt8
  p1 : UInt8
  p2 : UInt8
  p3 : UInt8
  data : List UInt8
  data_length : data = [] ∨ (data.length = p3.toNat ∧ p3 ≠ 0)
  ins_valid : ins >>> 4 ≠ 6 ∧ ins >>> 4 ≠ 9
  fits : 5 + data.length ≤ 255

namespace ShortCommand

variable (c : ShortCommand)

def header : List UInt8 := [c.cla, c.ins, c.p1, c.p2, c.p3]

def bytes : List UInt8 := c.header ++ c.data

theorem bytes_take_five : c.bytes.take 5 = c.header := List.take_left' rfl

theorem bytes_drop_five : c.bytes.drop 5 = c.data := List.drop_left' rfl

theorem length_bytes : c.bytes.length = 5 + c.data.length := by
  simp only [bytes, header, List.length_append, List.length_cons, List.length_nil]

theorem toNat_length_bytes : c.bytes.length.toUInt8.toNat = 5 + c.data.length := by
  rw [toNat_toUInt8_of_lt _ (by rw [length_bytes]; have := c.fits; omega), length_bytes]

theorem ins_ne_null : c.ins ≠ 0x60 := fun null => c.ins_valid.1 (by rw [null]; decide)

theorem ne_ins_of_statusByte {sw1 : UInt8} (status : statusByte sw1) : sw1 ≠ c.ins := by
  rintro rfl
  rcases status.1 with six | nine
  · exact c.ins_valid.1 six
  · exact c.ins_valid.2 nine

end ShortCommand

/-- How a card answers a command under T=0. -/
inductive CardAnswer where
  /-- `nulls` NULL bytes, then `SW1 SW2` in place of the ACK. -/
  | status (nulls : Nat) (sw1 sw2 : UInt8)
  /-- `nulls` NULL bytes, the ACK (`INS`), the card's `data` once the driver has sent its own,
  `nullsAfter` NULL bytes, then `SW1 SW2`. -/
  | ack (nulls : Nat) (data : List UInt8) (nullsAfter : Nat) (sw1 sw2 : UInt8)

namespace CardAnswer

/-- The answers the T=0 rules allow to `c`: `SW1` is a status byte; after an ACK the card sends no
data for case 3S, `Le` bytes for case 2S, and none or 256 when `P3 = 0`. -/
def Valid (c : ShortCommand) : CardAnswer → Prop
  | status _ sw1 _ => statusByte sw1
  | ack _ data _ sw1 _ =>
      statusByte sw1 ∧
        if c.data ≠ [] then data = []
        else if c.p3 = 0 then data.length = 0 ∨ data.length = 256
        else data.length = c.p3.toNat

/-- No NULL between the data and `SW1` of a case 1 or 2S answer: with a count above 2 to wait
for, the driver stores every byte it reads. -/
def Readable (c : ShortCommand) : CardAnswer → Prop
  | status .. => True
  | ack _ _ nullsAfter _ _ => c.data = [] → nullsAfter = 0

/-- `SW2` of an acknowledged case 3S command is not `0x60`. -/
def KeepsSw2 (c : ShortCommand) : CardAnswer → Prop
  | status .. => True
  | ack _ _ _ _ sw2 => c.data ≠ [] → sw2 ≠ 0x60

instance (c : ShortCommand) (a : CardAnswer) : Decidable (a.Valid c) :=
  match a with
  | status _ sw1 _ => inferInstanceAs (Decidable (statusByte sw1))
  | ack _ data _ sw1 _ => inferInstanceAs (Decidable (statusByte sw1 ∧
      if c.data ≠ [] then data = []
      else if c.p3 = 0 then data.length = 0 ∨ data.length = 256
      else data.length = c.p3.toNat))

instance (c : ShortCommand) (a : CardAnswer) : Decidable (a.Readable c) :=
  match a with
  | status .. => inferInstanceAs (Decidable True)
  | ack _ _ nullsAfter _ _ => inferInstanceAs (Decidable (c.data = [] → nullsAfter = 0))

instance (c : ShortCommand) (a : CardAnswer) : Decidable (a.KeepsSw2 c) :=
  match a with
  | status .. => inferInstanceAs (Decidable True)
  | ack _ _ _ _ sw2 => inferInstanceAs (Decidable (c.data ≠ [] → sw2 ≠ 0x60))

def response : CardAnswer → List UInt8
  | status _ sw1 sw2 => [sw1, sw2]
  | ack _ data _ sw1 sw2 => data ++ [sw1, sw2]

/-- What the driver reads during the exchange: the echo of the header, the card's procedure bytes,
after an ACK the echo of the driver's data, then the card's bytes, and silence. -/
def stream (c : ShortCommand) : CardAnswer → List (Option UInt8)
  | status nulls sw1 sw2 =>
      (c.header ++ List.replicate nulls 0x60 ++ [sw1, sw2]).map some ++ [none]
  | ack nulls data nullsAfter sw1 sw2 =>
      (c.header ++ List.replicate nulls 0x60 ++ [c.ins] ++ c.data ++ data ++
        List.replicate nullsAfter 0x60 ++ [sw1, sw2]).map some ++ [none]

/-- What the card receives of `c` during the exchange: the header, and the data once it has
acknowledged it. -/
def received (c : ShortCommand) : CardAnswer → List UInt8
  | status .. => c.header
  | ack .. => c.bytes

theorem received_of_data_nil (c : ShortCommand) (empty : c.data = []) (a : CardAnswer) :
    a.received c = c.bytes := by
  cases a
  · simp [received, ShortCommand.bytes, empty]
  · rfl

theorem received_getD_ins (c : ShortCommand) (a : CardAnswer) : (a.received c).getD 1 0 = c.ins := by
  cases a <;> rfl

end CardAnswer

/-! ## The two kinds of answer -/

section Exchange
variable (c : ShortCommand) (b : Board) (more : List (Option UInt8))

theorem transmitRaw_status_answer_run (nulls : Nat) (sw1 sw2 : UInt8) (status : statusByte sw1) :
    (transmitRaw c.bytes c.bytes.length.toUInt8).run
      { b with incoming := (CardAnswer.status nulls sw1 sw2).stream c ++ more } =
      ((0, [sw1, sw2]), { b with sent := b.sent ++ c.header, incoming := more }) := by
  have line : (CardAnswer.status nulls sw1 sw2).stream c ++ more =
      (c.bytes.take 5).map some ++
        (List.replicate nulls (some 0x60) ++ some sw1 :: some sw2 :: none :: more) := by
    simp [CardAnswer.stream, ShortCommand.bytes_take_five]
  have proc := readProcedureByte_nulls (some sw2 :: none :: more) c.ins sw1 nulls c.ins_ne_null
    (.inr status.2)
  rw [line, transmitRaw_status_path b c.bytes _ (by rw [c.toNat_length_bytes]; omega)
    (by rw [c.length_bytes]; omega) _ _ sw1 proc (c.ne_ins_of_statusByte status),
    statusWordReply_silence _ sw1 sw2 more rfl, c.bytes_take_five]

theorem transmitRaw_ack_reply (nulls : Nat) (reply : List (Option UInt8)) :
    (transmitRaw c.bytes c.bytes.length.toUInt8).run
      { b with incoming := (c.header ++ List.replicate nulls 0x60 ++ [c.ins] ++ c.data).map some ++
        reply } =
      let count := toRecv (fun i => c.bytes.getD i 0) c.bytes.length.toUInt8
      let r := receiveLoop count [] reply
      ((if (r.1.length : Int) ≠ count ∧ count ≠ 65535 then -1 else 0, r.1),
        { b with sent := b.sent ++ c.bytes, incoming := r.2 }) := by
  have line : (c.header ++ List.replicate nulls 0x60 ++ [c.ins] ++ c.data).map some ++ reply =
      (c.bytes.take 5).map some ++
        (List.replicate nulls (some 0x60) ++ some c.ins :: (c.data.map some ++ reply)) := by
    simp [ShortCommand.bytes_take_five]
  have whole : c.bytes.take c.bytes.length.toUInt8.toNat = c.bytes := by
    rw [c.toNat_length_bytes, ← c.length_bytes, List.take_length]
  have proc := readProcedureByte_nulls (c.data.map some ++ reply) c.ins c.ins nulls c.ins_ne_null
    (.inl rfl)
  rw [line, transmitRaw_ack_path b c.bytes _ (by rw [c.toNat_length_bytes]; omega)
    (by rw [c.toNat_length_bytes, c.length_bytes]) _ reply
    (by rw [c.bytes_drop_five, c.toNat_length_bytes, Nat.add_sub_cancel_left, List.take_length]
        exact proc),
    receiveReply_run, whole]

theorem toRecv_shortCommand :
    toRecv (fun i => c.bytes.getD i 0) c.bytes.length.toUInt8 =
      if c.data = [] then leOrUndetermined c.p3.toNat else 2 := by
  rcases c.data_length with empty | ⟨length, p3⟩
  · rw [if_pos empty, toRecv_header _ _ (by rw [c.toNat_length_bytes, empty]; rfl)]
    rfl
  · have nonzero := toNat_ne_zero p3
    have notEmpty : c.data ≠ [] := fun empty => nonzero (by rw [← length, empty]; rfl)
    rw [if_neg notEmpty, toRecv_short _ _ (by rw [c.toNat_length_bytes]; omega) nonzero, if_pos]
    show ((c.bytes.length.toUInt8.toNat : Nat) : Int) = 5 + (c.p3.toNat : Int)
    rw [c.toNat_length_bytes, length]
    omega

theorem transmitRaw_ack_answer_run (nulls : Nat) (data : List UInt8) (nullsAfter : Nat)
    (sw1 sw2 : UInt8) (valid : (CardAnswer.ack nulls data nullsAfter sw1 sw2).Valid c)
    (readable : (CardAnswer.ack nulls data nullsAfter sw1 sw2).Readable c)
    (kept : (CardAnswer.ack nulls data nullsAfter sw1 sw2).KeepsSw2 c) :
    ∃ rest : List (Option UInt8), (rest = [] ∨ rest = [none]) ∧
      (transmitRaw c.bytes c.bytes.length.toUInt8).run
        { b with incoming := (CardAnswer.ack nulls data nullsAfter sw1 sw2).stream c ++ more } =
        ((0, data ++ [sw1, sw2]), { b with sent := b.sent ++ c.bytes, incoming := rest ++ more }) := by
  obtain ⟨status, sent⟩ := valid
  have line : (CardAnswer.ack nulls data nullsAfter sw1 sw2).stream c ++ more =
      (c.header ++ List.replicate nulls 0x60 ++ [c.ins] ++ c.data).map some ++
        ((data ++ List.replicate nullsAfter 0x60 ++ [sw1, sw2]).map some ++ none :: more) := by
    simp [CardAnswer.stream]
  rw [line, transmitRaw_ack_reply, toRecv_shortCommand]
  by_cases empty : c.data = []
  · rw [if_neg (not_not_intro empty)] at sent
    rw [if_pos empty]
    obtain rfl : nullsAfter = 0 := readable empty
    simp only [List.replicate_zero, List.append_nil]
    by_cases p3 : c.p3 = 0
    · rw [if_pos p3] at sent
      have undetermined : leOrUndetermined c.p3.toNat = 65535 := by rw [p3]; rfl
      rw [undetermined, receiveLoop_map_some_append 65535 [] _ (data ++ [sw1, sw2])
        (by simp; omega) (fun two => absurd two (by decide)), List.nil_append,
        receiveLoop_none 65535 _ _ (by simp; omega)]
      exact ⟨[], .inl rfl, by simp⟩
    · rw [if_neg p3] at sent
      have nonzero := toNat_ne_zero p3
      have count : leOrUndetermined c.p3.toNat = ((data ++ [sw1, sw2]).length : Int) := by
        have positive : (c.p3.toNat : Int) ≠ 0 := by omega
        simp only [leOrUndetermined, if_neg positive, List.length_append, List.length_cons,
          List.length_nil, sent]
        omega
      have three : ((data ++ [sw1, sw2]).length : Int) ≠ 2 := by
        simp only [List.length_append, List.length_cons, List.length_nil]
        omega
      rw [count, receiveLoop_map_some_append ((data ++ [sw1, sw2]).length : Int) [] _ (data ++ [sw1, sw2])
        (by simp) (fun two => absurd two three), List.nil_append,
        receiveLoop_full _ _ _ (Int.le_refl _)]
      exact ⟨[none], .inr rfl, by simp⟩
  · rw [if_pos empty] at sent
    rw [if_neg empty]
    subst sent
    dsimp only
    rw [List.nil_append, List.map_append, List.map_replicate, List.append_assoc,
      receiveLoop_nulls [] _ nullsAfter (by decide), receiveLoop_map_some_append _ [] _ [sw1, sw2] (by simp)
        (fun _ null => by simp at null; rcases null with one | two
                          · exact status.2 one.symm
                          · exact kept empty two.symm),
      List.nil_append, receiveLoop_full 2 _ _ (by simp)]
    exact ⟨[none], .inr rfl, rfl⟩

theorem transmitRaw_t0_run (a : CardAnswer) (valid : a.Valid c) (readable : a.Readable c)
    (kept : a.KeepsSw2 c) :
    ∃ rest : List (Option UInt8), (rest = [] ∨ rest = [none]) ∧
      (transmitRaw c.bytes c.bytes.length.toUInt8).run { b with incoming := a.stream c ++ more } =
        ((0, a.response), { b with sent := b.sent ++ a.received c, incoming := rest ++ more }) := by
  cases a with
  | status nulls sw1 sw2 => exact ⟨[], .inl rfl, transmitRaw_status_answer_run c b more nulls sw1 sw2 valid⟩
  | ack nulls data nullsAfter sw1 sw2 =>
      exact transmitRaw_ack_answer_run c b more nulls data nullsAfter sw1 sw2 valid readable kept

theorem transmitRaw_t0_paused (a : CardAnswer) (valid : a.Valid c) (readable : a.Readable c)
    (kept : a.KeepsSw2 c) (k : Nat) (line : b.incoming = List.replicate k none ++ (a.stream c ++ more)) :
    ∃ rest : List (Option UInt8), (rest = [] ∨ rest = [none]) ∧
      (transmitRaw c.bytes c.bytes.length.toUInt8).run b =
        ((0, a.response), { b with sent := b.sent ++ a.received c, incoming := rest ++ more }) := by
  obtain ⟨rest, silence, run⟩ := transmitRaw_t0_run c b more a valid readable kept
  refine ⟨rest, silence, ?_⟩
  rw [transmitRaw_after_pauses b c.bytes _ (by rw [c.toNat_length_bytes]; omega) k _ line, run]

end Exchange

/-! ## The exchange -/

/-- Every exchange of a short command with a card that answers by the T=0 rules ends with `0` and
the response APDU in `rx`, as long as no NULL byte comes between the data and `SW1` of a case 1 or
2S answer.  An acknowledged case 3S command answered with `SW2 = 0x60` is left out. -/
theorem transmitRaw_t0_exchange (c : ShortCommand) (a : CardAnswer) (valid : a.Valid c)
    (readable : a.Readable c) (kept : a.KeepsSw2 c) (b : Board) :
    ((transmitRaw c.bytes c.bytes.length.toUInt8).run { b with incoming := a.stream c }).1 =
      (0, a.response) := by
  obtain ⟨rest, -, run⟩ := transmitRaw_t0_run c b [] a valid readable kept
  rw [← List.append_nil (a.stream c), run]

/-- `READ BINARY` of two bytes, with a NULL before the ACK. -/
theorem transmitRaw_t0_read_binary :
    let c : ShortCommand := ⟨0x00, 0xB0, 0x00, 0x00, 0x02, [], by decide, by decide, by decide⟩
    let a := CardAnswer.ack 1 [0x11, 0x22] 0 0x90 0x00
    let b : Board := { incoming := [], sent := [], simOn := true, reset := true, answersToReset := [] }
    a.Valid c ∧ a.Readable c ∧ a.KeepsSw2 c ∧
      ((transmitRaw c.bytes c.bytes.length.toUInt8).run { b with incoming := a.stream c }).1 =
        (0, [0x11, 0x22, 0x90, 0x00]) :=
  ⟨by decide, by decide, by decide, transmitRaw_t0_exchange _ _ (by decide) (by decide) (by decide) _⟩

/-- `READ BINARY` of one byte answered `B0 42 60 90 00`: the NULL before `SW1` is stored as a byte of
the response and `SW2` is left on the line. -/
theorem transmitRaw_t0_counts_nulls :
    let read : ShortCommand := ⟨0x00, 0xB0, 0x00, 0x00, 0x01, [], by decide, by decide, by decide⟩
    let a := CardAnswer.ack 0 [0x42] 1 0x90 0x00
    let b : Board := { incoming := [], sent := [], simOn := true, reset := true, answersToReset := [] }
    a.Valid read ∧
      ((transmitRaw read.bytes read.bytes.length.toUInt8).run { b with incoming := a.stream read }).1 =
        (0, [0x42, 0x60, 0x90]) ∧ a.response = [0x42, 0x90, 0x00] := by
  decide

/-! ## `SW2 = 60` after the data of a case 3S command -/

/-- After the data of a case 3S command the driver waits for 2 bytes, and its NULL filter then
drops every `0x60`, `SW2` included: for every case 3S command and every status word `SW1 60` after
the ACK, the exchange fails with `SW1` alone stored, whereas the same status word in place of the
ACK is returned whole. -/
theorem transmitRaw_drops_sw2_null (c : ShortCommand) (case3 : c.data ≠ []) (nulls nullsAfter : Nat)
    (sw1 : UInt8) (status : statusByte sw1) (b : Board) :
    ((transmitRaw c.bytes c.bytes.length.toUInt8).run
        { b with incoming := (CardAnswer.ack nulls [] nullsAfter sw1 0x60).stream c }).1 = (-1, [sw1]) ∧
      ((transmitRaw c.bytes c.bytes.length.toUInt8).run
        { b with incoming := (CardAnswer.status nulls sw1 0x60).stream c }).1 = (0, [sw1, 0x60]) := by
  refine ⟨?_, by rw [← List.append_nil ((CardAnswer.status nulls sw1 0x60).stream c),
    transmitRaw_status_answer_run c b [] nulls sw1 0x60 status]⟩
  have line : (CardAnswer.ack nulls [] nullsAfter sw1 0x60).stream c =
      (c.header ++ List.replicate nulls 0x60 ++ [c.ins] ++ c.data).map some ++
        (List.replicate nullsAfter (some 0x60) ++ [some sw1, some 0x60, none]) := by
    simp [CardAnswer.stream, List.map_replicate]
  have stored : receiveLoop 2 [] (List.replicate nullsAfter (some 0x60) ++ [some sw1, some 0x60, none]) =
      ([sw1], []) := by
    rw [receiveLoop_nulls [] _ nullsAfter (by decide)]
    simp [receiveLoop.eq_def, status.2]
  rw [line, transmitRaw_ack_reply, toRecv_shortCommand, if_neg case3]
  simp only [stored]
  rfl

/-- `UPDATE BINARY` of one byte answered with the ACK and then `61 60`. -/
theorem transmitRaw_drops_sw2_null_update_binary :
    let update : ShortCommand := ⟨0x00, 0xD6, 0x00, 0x00, 0x01, [0x42], by decide, by decide, by decide⟩
    let b : Board := { incoming := [], sent := [], simOn := true, reset := true, answersToReset := [] }
    update.data ≠ [] ∧ statusByte 0x61 ∧
      ((transmitRaw update.bytes update.bytes.length.toUInt8).run
          { b with incoming := (CardAnswer.ack 0 [] 0 0x61 0x60).stream update }).1 = (-1, [0x61]) ∧
        ((transmitRaw update.bytes update.bytes.length.toUInt8).run
          { b with incoming := (CardAnswer.status 0 0x61 0x60).stream update }).1 = (0, [0x61, 0x60]) :=
  ⟨by decide, by decide, transmitRaw_drops_sw2_null _ (by decide) 0 0 0x61 (by decide) _⟩

end LpacEspidf.Card
