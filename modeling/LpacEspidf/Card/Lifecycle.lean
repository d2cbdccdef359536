import LpacEspidf.Card.Session
import LpacEspidf.Card.Channels

/-!
# The interface over a card's lifetime

A card with logical channels on the line from `connect` on: a cold reset, its ATR and its answer to
`TERMINAL CAPABILITIES`, then any sequence of `logic_channel_open`, `logic_channel_close` and
`transmit` calls.  The card answers every command by the T=0 rules, the driver's
`MANAGE CHANNEL OPEN` with the channel it opens, and its channels change by `MANAGE CHANNEL` alone
(`manageChannel`).  During a call the line delivers what is still buffered, then each of the card's
answers after the pause in which the card waits for the command; a pause is over once the driver
writes.

`apduInterfaceConnect_t0` is `connect` with such a card, from any board.  `lifetime_channels`
follows every run: `connect` returns 0, the `k`-th `logic_channel_open` returns channel `k` or -1,
and the channels open on the card at the end are those the opens took, whatever was passed to
`logic_channel_close` in between.
-/

set_option autoImplicit false

namespace LpacEspidf.Card

open LpacEspidf.Apdu

/-! ## The driver's commands as short commands -/

def terminalCapabilitiesCommand : ShortCommand :=
  ⟨0x80, 0xAA, 0x00, 0x00, 0x0A, [0xA9, 0x08, 0x81, 0x00, 0x82, 0x01, 0x01, 0x83, 0x01, 0x07],
    by decide, by decide, by decide⟩

def openLogicChannelCommand : ShortCommand :=
  ⟨0x00, 0x70, 0x00, 0x00, 0x01, [], by decide, by decide, by decide⟩

def closeLogicChannelCommand : ShortCommand :=
  ⟨0x00, 0x70, 0x80, 0xFF, 0x00, [], by decide, by decide, by decide⟩

theorem aid_data_length (aid : Aid) :
    aid.bytes = [] ∨ (aid.bytes.length = aid.bytes.length.toUInt8.toNat ∧ aid.bytes.length.toUInt8 ≠ 0) := by
  have length := toNat_toUInt8_of_lt aid.bytes.length aid.length_lt
  by_cases empty : aid.bytes = []
  · exact .inl empty
  · refine .inr ⟨length.symm, fun zero => empty (List.length_eq_zero.mp ?_)⟩
    rw [← length, zero]
    rfl

def selectChannelCommand (channel : UInt8) (aid : Aid) (fits : aid.bytes.length ≤ 250) : ShortCommand :=
  ⟨channel, 0xA4, 0x04, 0x00, aid.bytes.length.toUInt8, aid.bytes, aid_data_length aid, by decide,
    by omega⟩

theorem terminalCapabilitiesCommand_bytes :
    terminalCapabilitiesCommand.bytes = apduTerminalCapabilities := rfl

theorem openLogicChannelCommand_bytes : openLogicChannelCommand.bytes = apduOpenLogicChannel := rfl

theorem closeLogicChannelCommand_bytes : closeLogicChannelCommand.bytes = apduCloseLogicChannel := rfl

theorem selectChannelCommand_bytes (channel : UInt8) (aid : Aid) (fits : aid.bytes.length ≤ 250) :
    (selectChannelCommand channel aid fits).bytes = selectCommand channel aid := by
  rw [selectCommand_eq]
  rfl

theorem selectChannelCommand_length (channel : UInt8) (aid : Aid) (fits : aid.bytes.length ≤ 250) :
    (selectChannelCommand channel aid fits).bytes.length.toUInt8 = (5 + aid.bytes.length).toUInt8 :=
  congrArg Nat.toUInt8 (ShortCommand.length_bytes _)

/-- The board as a call begins: what is still buffered, then what the card sends during the call. -/
def withAnswers (b : Board) (answers : List (Option UInt8)) : Board :=
  { b with incoming := b.incoming.takeWhile Option.isSome ++ answers }

theorem withAnswers_incoming (b : Board) (answers : List (Option UInt8))
    (quiet : b.incoming.takeWhile Option.isSome = []) : (withAnswers b answers).incoming = answers := by
  rw [withAnswers, quiet, List.nil_append]

theorem takeWhile_isSome_pause (rest more : List (Option UInt8)) (silence : rest = [] ∨ rest = [none])
    (quiet : more.takeWhile Option.isSome = []) : (rest ++ more).takeWhile Option.isSome = [] := by
  rcases silence with rfl | rfl
  · exact quiet
  · rfl

/-! ## Connect -/

/-- A card that sends a well-formed ATR after the cold reset and answers `TERMINAL CAPABILITIES` by
the T=0 rules: `connect` returns 0, having sent the command as the answer allows, and leaves nothing
buffered. -/
theorem apduInterfaceConnect_t0 (atr : Atr) (notTs : atr.t0 ≠ 0x3B) (a : CardAnswer)
    (valid : a.Valid terminalCapabilitiesCommand) (readable : a.Readable terminalCapabilitiesCommand)
    (kept : a.KeepsSw2 terminalCapabilitiesCommand) (b : Board)
    (next : b.answersToReset.headD [] = atr.bytes.map some ++ none :: a.stream terminalCapabilitiesCommand) :
    (apduInterfaceConnect.run b).1 = 0 ∧
      (apduInterfaceConnect.run b).2.incoming.takeWhile Option.isSome = [] ∧
      (apduInterfaceConnect.run b).2.sent = b.sent ++ a.received terminalCapabilitiesCommand := by
  have reset : (resetCard.run b).2.incoming = atr.bytes.map some ++ none :: a.stream terminalCapabilitiesCommand := by
    rw [resetCard_run, next]
  have answered := waitForCard_atr_then (resetCard.run b).2 atr notTs _ reset
  obtain ⟨rest, silence, exchange⟩ := transmitRaw_t0_paused terminalCapabilitiesCommand
    { (resetCard.run b).2 with incoming := none :: a.stream terminalCapabilitiesCommand } [] a valid
    readable kept 1 (by simp)
  rw [terminalCapabilitiesCommand_bytes] at exchange
  simp only [apduInterfaceConnect, StateT.run_bind, Id.bind_eq, answered, if_true, exchange,
    StateT.run_pure, Id.pure_eq]
  exact ⟨trivial, takeWhile_isSome_pause rest [] silence rfl, by rw [resetCard_run]⟩

/-- `3B 12 11 80 31`, then `90 00` in place of the ACK of `TERMINAL CAPABILITIES`. -/
theorem apduInterfaceConnect_t0_status :
    let atr : Atr := ⟨.last (some 0x11) none none, [0x80, 0x31], by decide, none, rfl⟩
    let a := CardAnswer.status 0 0x90 0x00
    let b : Board :=
      ⟨[], [], false, false, [atr.bytes.map some ++ none :: a.stream terminalCapabilitiesCommand]⟩
    atr.t0 ≠ 0x3B ∧ a.Valid terminalCapabilitiesCommand ∧ a.Readable terminalCapabilitiesCommand ∧
      a.KeepsSw2 terminalCapabilitiesCommand ∧
      b.answersToReset.headD [] = atr.bytes.map some ++ none :: a.stream terminalCapabilitiesCommand ∧
      (apduInterfaceConnect.run b).1 = 0 ∧
      (apduInterfaceConnect.run b).2.incoming.takeWhile Option.isSome = [] ∧
      (apduInterfaceConnect.run b).2.sent = b.sent ++ a.received terminalCapabilitiesCommand := by
  intro atr a b
  exact ⟨by decide, by decide, trivial, trivial, rfl,
    apduInterfaceConnect_t0 atr (by decide) a (by decide) trivial trivial b rfl⟩

/-! ## A card with logical channels -/

/-- A card with logical channels: its ATR, and its answer to every command but the driver's
`MANAGE CHANNEL OPEN`, in each state of its channels. -/
structure ChannelCard where
  atr : Atr
  atr_t0 : atr.t0 ≠ 0x3B
  other : ChannelTable → ShortCommand → CardAnswer

namespace ChannelCard

variable (card : ChannelCard)

/-- The card's answer: to the driver's `MANAGE CHANNEL OPEN`, the channel it opens and `90 00`, or
`6A 81` when none is free. -/
def answer (t : ChannelTable) (c : ShortCommand) : CardAnswer :=
  if c.bytes = apduOpenLogicChannel then
    match (manageChannel t apduOpenLogicChannel).2 with
    | some channel => .ack 0 [channel.toUInt8] 0 0x90 0x00
    | none => .status 0 0x6A 0x81
  else card.other t c

/-- Every other answer follows the T=0 rules in a way the driver can read. -/
def Conforms : Prop :=
  ∀ t c, (card.other t c).Valid c ∧ (card.other t c).Readable c ∧ (card.other t c).KeepsSw2 c

def toT0Card : T0Card ChannelTable :=
  ⟨fun t c => (card.answer t c, (manageChannel t c.bytes).1)⟩

/-- What the card sends from a cold reset on: its ATR, then its answer to `TERMINAL CAPABILITIES`
once that has come. -/
def answerToReset : List (Option UInt8) :=
  card.atr.bytes.map some ++
    none :: (card.answer .empty terminalCapabilitiesCommand).stream terminalCapabilitiesCommand

def selectAnswer (t : ChannelTable) (channel : UInt8) (aid : Aid) : List (Option UInt8) :=
  if fits : aid.bytes.length ≤ 250 then
    none :: (card.answer t (selectChannelCommand channel aid fits)).stream
      (selectChannelCommand channel aid fits)
  else []

theorem answer_conforms (conforms : card.Conforms) (t : ChannelTable) (c : ShortCommand) :
    (card.answer t c).Valid c ∧ (card.answer t c).Readable c ∧ (card.answer t c).KeepsSw2 c := by
  unfold answer
  split
  · rename_i opening
    have p3 : c.p3 = 1 := congrArg (·.getD 4 0) opening
    have empty : c.data = [] := by
      have length := congrArg List.length opening
      simpa [ShortCommand.length_bytes, apduOpenLogicChannel] using length
    split
    · exact ⟨⟨by decide, by simp [empty, p3]⟩, fun _ => rfl, fun full => absurd empty full⟩
    · exact ⟨(by decide : statusByte 0x6A), trivial, trivial⟩
  · exact conforms t c

theorem selectAnswer_quiet (t : ChannelTable) (channel : UInt8) (aid : Aid) :
    (card.selectAnswer t channel aid).takeWhile Option.isSome = [] := by
  unfold selectAnswer
  split <;> rfl

theorem answer_openLogicChannel (t : ChannelTable) :
    card.answer t openLogicChannelCommand =
      match (manageChannel t apduOpenLogicChannel).2 with
      | some channel => .ack 0 [channel.toUInt8] 0 0x90 0x00
      | none => .status 0 0x6A 0x81 := if_pos rfl

theorem selectAnswer_run (conforms : card.Conforms) (t : ChannelTable) (channel : UInt8) (aid : Aid)
    (b : Board) (rest : List (Option UInt8)) (silence : rest = [] ∨ rest = [none])
    (line : b.incoming = rest ++ card.selectAnswer t channel aid) :
    ((transmitRaw ([channel, 0xA4, 0x04, 0x00, aid.bytes.length.toUInt8] ++ aid.bytes)
        (5 + aid.bytes.length).toUInt8).run b).2.incoming.takeWhile Option.isSome = [] ∧
      ∃ more, ((transmitRaw ([channel, 0xA4, 0x04, 0x00, aid.bytes.length.toUInt8] ++ aid.bytes)
        (5 + aid.bytes.length).toUInt8).run b).2.sent = b.sent ++ more := by
  by_cases fits : aid.bytes.length ≤ 250
  · obtain ⟨valid, readable, kept⟩ :=
      card.answer_conforms conforms t (selectChannelCommand channel aid fits)
    obtain ⟨rest', silence', selected⟩ := transmitRaw_t0_paused (selectChannelCommand channel aid fits)
      b [] _ valid readable kept (rest.length + 1)
      (by rw [line, selectAnswer, dif_pos fits]; rcases silence with rfl | rfl <;> simp)
    rw [selectChannelCommand_length, selectChannelCommand_bytes, selectCommand_eq] at selected
    rw [selected]
    exact ⟨takeWhile_isSome_pause rest' [] silence' rfl, _, rfl⟩
  · have narrowed : ((5 + aid.bytes.length).toUInt8).toNat < 5 := by
      show (5 + aid.bytes.length) % 256 < 5
      have := aid.length_lt
      omega
    rw [transmitRaw_short_command b _ _ narrowed, line]
    exact ⟨takeWhile_isSome_pause rest _ silence (card.selectAnswer_quiet t channel aid), [],
      (List.append_nil _).symm⟩

/-- What the card sends during `logic_channel_open`: after a pause, its answer to
`MANAGE CHANNEL OPEN`, then its answer to the `SELECT` on the channel that answer names. -/
def openLine (t : ChannelTable) (aid : Aid) : List (Option UInt8) :=
  none :: ((card.answer t openLogicChannelCommand).stream openLogicChannelCommand ++
    card.selectAnswer (manageChannel t apduOpenLogicChannel).1
      ((card.answer t openLogicChannelCommand).response.getD 0 0) aid)

/-- What the card sends during `logic_channel_close`: after a pause, its answer to the `CLOSE`. -/
def closeLine (t : ChannelTable) : List (Option UInt8) :=
  none :: (card.answer t closeLogicChannelCommand).stream closeLogicChannelCommand

end ChannelCard

/-- The calls of the interface after `connect`. -/
inductive Call where
  | logicChannelOpen (aid : Aid)
  | logicChannelClose (channel : UInt8)
  | transmit (c : ShortCommand) (mallocOk : Bool)

def Call.opens : List Call → Nat
  | [] => 0
  | .logicChannelOpen _ :: calls => opens calls + 1
  | _ :: calls => opens calls

namespace ChannelCard

variable (card : ChannelCard)

/-- One call with the card on the line: what `logic_channel_open` returned, the board, and the card's
channels once it has run `MANAGE CHANNEL` on what the driver wrote (after an OPEN, the driver writes
a `SELECT`, which leaves them as they are). -/
def step : Call → Board × ChannelTable → List Int × Board × ChannelTable
  | .logicChannelOpen aid, (b, t) =>
    let r := (apduInterfaceLogicChannelOpen aid).run (withAnswers b (card.openLine t aid))
    ([r.1], r.2, (manageChannel t (r.2.sent.drop b.sent.length)).1)
  | .logicChannelClose channel, (b, t) =>
    let r := (apduInterfaceLogicChannelClose channel).run (withAnswers b (card.closeLine t))
    ([], r.2, (manageChannel t (r.2.sent.drop b.sent.length)).1)
  | .transmit c mallocOk, (b, t) =>
    let r := transmitTo card.toT0Card c mallocOk b t
    ([], r.2.1, r.2.2)

def session : List Call → Board × ChannelTable → List Int × Board × ChannelTable
  | [], s => ([], s)
  | call :: calls, s =>
    let first := card.step call s
    let rest := session calls (first.2.1, first.2.2)
    (first.1 ++ rest.1, rest.2)

/-- `connect` with the card's answer to reset next, then the calls: what `connect` returned, what each
`logic_channel_open` returned, and the board and the card's channels at the end. -/
def lifetime (calls : List Call) (b : Board) : Int × List Int × Board × ChannelTable :=
  let connected :=
    apduInterfaceConnect.run { b with answersToReset := card.answerToReset :: b.answersToReset }
  (connected.1, card.session calls
    (connected.2, (manageChannel .empty (connected.2.sent.drop b.sent.length)).1))

/-! ## One call, and a whole run -/

theorem connect_run (conforms : card.Conforms) (b : Board) :
    (apduInterfaceConnect.run { b with answersToReset := card.answerToReset :: b.answersToReset }).1 = 0 ∧
      (apduInterfaceConnect.run
        { b with answersToReset := card.answerToReset :: b.answersToReset }).2.incoming.takeWhile
          Option.isSome = [] ∧
      (apduInterfaceConnect.run { b with answersToReset := card.answerToReset :: b.answersToReset }).2.sent =
        b.sent ++ (card.answer .empty terminalCapabilitiesCommand).received terminalCapabilitiesCommand := by
  obtain ⟨valid, readable, kept⟩ := card.answer_conforms conforms .empty terminalCapabilitiesCommand
  exact apduInterfaceConnect_t0 card.atr card.atr_t0 _ valid readable kept _ rfl

theorem step_logicChannelOpen (conforms : card.Conforms) (aid : Aid) (b : Board) (t : ChannelTable)
    (quiet : b.incoming.takeWhile Option.isSome = []) :
    ((card.step (.logicChannelOpen aid) (b, t)).1 = [-1] ∨
        ∃ ch, (manageChannel t apduOpenLogicChannel).2 = some ch ∧
          (card.step (.logicChannelOpen aid) (b, t)).1 = [(ch : Int)]) ∧
      (card.step (.logicChannelOpen aid) (b, t)).2.1.incoming.takeWhile Option.isSome = [] ∧
      (card.step (.logicChannelOpen aid) (b, t)).2.2 = (manageChannel t apduOpenLogicChannel).1 := by
  obtain ⟨valid, readable, kept⟩ := card.answer_conforms conforms t openLogicChannelCommand
  set select := card.selectAnswer (manageChannel t apduOpenLogicChannel).1
    ((card.answer t openLogicChannelCommand).response.getD 0 0) aid with selectDef
  obtain ⟨rest, silence, mco⟩ := transmitRaw_t0_paused openLogicChannelCommand
    (withAnswers b (card.openLine t aid)) select _ valid readable kept 1
    (by rw [withAnswers_incoming b _ quiet]; rfl)
  rw [CardAnswer.received_of_data_nil _ rfl, openLogicChannelCommand_bytes,
    show apduOpenLogicChannel.length.toUInt8 = 5 from rfl] at mco
  simp only [step]
  rcases run : (apduInterfaceLogicChannelOpen aid).run (withAnswers b (card.openLine t aid)) with ⟨c, b'⟩
  suffices after : (c = -1 ∨ ∃ ch, (manageChannel t apduOpenLogicChannel).2 = some ch ∧ c = ch) ∧
      b'.incoming.takeWhile Option.isSome = [] ∧ ∃ more, b'.sent = b.sent ++ apduOpenLogicChannel ++ more by
    obtain ⟨result, after, more, sent⟩ := after
    refine ⟨?_, after, ?_⟩
    · rcases result with rfl | ⟨ch, opened, rfl⟩
      · exact .inl rfl
      · exact .inr ⟨ch, opened, rfl⟩
    · rw [sent, List.append_assoc, List.drop_left, manageChannel_append t _ _ (by decide)]
  have pending := takeWhile_isSome_pause rest select silence (card.selectAnswer_quiet _ _ aid)
  rcases apduInterfaceLogicChannelOpen_cases aid _ b' c run with ⟨rfl, rfl⟩ |
      ⟨channel, sw1, sw2, b₁, r, rx, mco', -, sel, result⟩
  · rw [mco]
    exact ⟨.inl rfl, pending, [], (List.append_nil _).symm⟩
  rw [mco] at mco'
  obtain ⟨answered, board⟩ := Prod.mk.inj mco'
  have response := (Prod.mk.inj answered).2
  have incoming₁ : b₁.incoming = rest ++ select := by rw [← board]
  have sent₁ : b₁.sent = b.sent ++ apduOpenLogicChannel := by rw [← board]; rfl
  cases chosen : (manageChannel t apduOpenLogicChannel).2 with
  | none =>
    rw [answer_openLogicChannel, chosen] at response
    simp [CardAnswer.response] at response
  | some ch =>
    rw [answer_openLogicChannel, chosen] at response
    injection response with first
    subst first
    have byte : (ch.toUInt8.toNat : Int) = ch :=
      congrArg Nat.cast (toNat_toUInt8_of_lt ch (by have := manageChannel_open_le t chosen; omega))
    have channelByte : (card.answer t openLogicChannelCommand).response.getD 0 0 = ch.toUInt8 := by
      rw [answer_openLogicChannel, chosen]
      rfl
    obtain ⟨after, more, sent⟩ := card.selectAnswer_run conforms _ ch.toUInt8 aid b₁ rest silence
      (by rw [incoming₁, selectDef, channelByte])
    rw [sel] at after sent
    exact ⟨result.imp id fun opened => ⟨ch, rfl, opened.1.trans byte⟩, after, more,
      by rw [sent, sent₁]⟩

theorem step_logicChannelClose (conforms : card.Conforms) (channel : UInt8) (b : Board)
    (t : ChannelTable) (quiet : b.incoming.takeWhile Option.isSome = []) :
    (card.step (.logicChannelClose channel) (b, t)).1 = [] ∧
      (card.step (.logicChannelClose channel) (b, t)).2.1.incoming.takeWhile Option.isSome = [] ∧
      (card.step (.logicChannelClose channel) (b, t)).2.2 = t := by
  obtain ⟨cmd, sent, kept⟩ :=
    apduInterfaceLogicChannelClose_closes_nothing channel (withAnswers b (card.closeLine t)) t
  refine ⟨rfl, ?_, ?_⟩
  · simp only [step]
    by_cases zero : channel = 0
    · have nothing : (apduInterfaceLogicChannelClose channel).run (withAnswers b (card.closeLine t)) =
          ((), withAnswers b (card.closeLine t)) := by
        simp [apduInterfaceLogicChannelClose, zero]
      rw [nothing, withAnswers_incoming b _ quiet]
      rfl
    · obtain ⟨valid, readable, kept⟩ := card.answer_conforms conforms t closeLogicChannelCommand
      obtain ⟨rest, silence, closed⟩ := transmitRaw_t0_paused closeLogicChannelCommand
        (withAnswers b (card.closeLine t)) [] _ valid readable kept 1
        (by rw [withAnswers_incoming b _ quiet]; simp [closeLine])
      have sends : (apduInterfaceLogicChannelClose channel).run (withAnswers b (card.closeLine t)) =
          ((), ((transmitRaw closeLogicChannelCommand.bytes
            closeLogicChannelCommand.bytes.length.toUInt8).run (withAnswers b (card.closeLine t))).2) := by
        simp only [apduInterfaceLogicChannelClose, ne_eq, zero, not_false_eq_true, if_true]
        rfl
      rw [sends, closed]
      exact takeWhile_isSome_pause rest [] silence rfl
  · simp only [step]
    rw [sent]
    show (manageChannel t ((b.sent ++ cmd).drop b.sent.length)).1 = t
    rw [List.drop_left, kept]

theorem step_transmit (conforms : card.Conforms) (c : ShortCommand) (ok : Bool) (b : Board)
    (t : ChannelTable) (quiet : b.incoming.takeWhile Option.isSome = []) (notManage : c.ins ≠ 0x70) :
    (card.step (.transmit c ok) (b, t)).1 = [] ∧
      (card.step (.transmit c ok) (b, t)).2.1.incoming.takeWhile Option.isSome = [] ∧
      (card.step (.transmit c ok) (b, t)).2.2 = t := by
  obtain ⟨-, -, after, state⟩ :=
    transmitTo_t0 card.toT0Card (fun t c => card.answer_conforms conforms t c) c ok b t quiet
  refine ⟨rfl, after, ?_⟩
  show (transmitTo card.toT0Card c ok b t).2.2 = t
  rw [state]
  cases ok with
  | false => rfl
  | true => exact congrArg Prod.fst (manageChannel_other t c.bytes (.inr notManage))

theorem session_channels (conforms : card.Conforms) (calls : List Call)
    (noManage : ∀ c ok, Call.transmit c ok ∈ calls → c.ins ≠ 0x70) (b : Board) (j : Nat)
    (quiet : b.incoming.takeWhile Option.isSome = []) :
    (card.session calls (b, afterOpens j)).2.2 = afterOpens (j + Call.opens calls) ∧
      List.Forall₂ (fun r k => r = -1 ∨ (r = k ∧ k ≤ 19)) (card.session calls (b, afterOpens j)).1
        (List.range' (j + 1) (Call.opens calls)) := by
  induction calls generalizing b j with
  | nil => exact ⟨rfl, .nil⟩
  | cons call calls ih =>
    have rest := ih fun c ok member => noManage c ok (List.mem_cons_of_mem _ member)
    simp only [session]
    cases call with
    | logicChannelOpen aid =>
      obtain ⟨result, after, table⟩ := card.step_logicChannelOpen conforms aid b (afterOpens j) quiet
      have opened : (card.step (.logicChannelOpen aid) (b, afterOpens j)).2.2 = afterOpens (j + 1) := table
      rw [opened]
      obtain ⟨tableAll, results⟩ := rest _ (j + 1) after
      refine ⟨by rw [tableAll, Call.opens, Nat.add_assoc, Nat.add_comm 1], ?_⟩
      rw [Call.opens, List.range'_succ]
      rcases result with single | ⟨ch, chosen, single⟩
      · rw [single]
        exact .cons (.inl rfl) results
      · rw [manageChannel_afterOpens] at chosen
        split at chosen
        · cases chosen
          rw [single]
          exact .cons (.inr ⟨rfl, by omega⟩) results
        · cases chosen
    | logicChannelClose channel =>
      obtain ⟨result, after, table⟩ := card.step_logicChannelClose conforms channel b (afterOpens j) quiet
      rw [table, result]
      exact rest _ j after
    | transmit c ok =>
      obtain ⟨result, after, table⟩ := card.step_transmit conforms c ok b (afterOpens j) quiet
        (noManage c ok (List.mem_cons_self _ _))
      rw [table, result]
      exact rest _ j after

/-- Every run from `connect` with a card that answers by the T=0 rules and calls that send no
`MANAGE CHANNEL` through `transmit`: `connect` returns 0, the `k`-th `logic_channel_open` returns
channel `k` or -1, and -1 once the card's 19 channels are taken, and at the end the card has open
exactly the channels the opens took, 1 to `min k 19`: `logic_channel_close` never closes one. -/
theorem lifetime_channels (conforms : card.Conforms) (calls : List Call)
    (noManage : ∀ c ok, Call.transmit c ok ∈ calls → c.ins ≠ 0x70) (b : Board) :
    (card.lifetime calls b).1 = 0 ∧
      List.Forall₂ (fun r k => r = -1 ∨ (r = k ∧ k ≤ 19)) (card.lifetime calls b).2.1
        (List.range' 1 (Call.opens calls)) ∧
      (card.lifetime calls b).2.2.2.channels = (List.range' 1 (min (Call.opens calls) 19)).reverse := by
  obtain ⟨connected, quiet, sent⟩ := card.connect_run conforms b
  have reset : (manageChannel .empty ((apduInterfaceConnect.run
      { b with answersToReset := card.answerToReset :: b.answersToReset }).2.sent.drop b.sent.length)).1 =
        afterOpens 0 := by
    rw [sent, List.drop_left]
    exact congrArg Prod.fst (manageChannel_other _ _ (.inr (by rw [CardAnswer.received_getD_ins]; decide)))
  obtain ⟨table, results⟩ := card.session_channels conforms calls noManage _ 0 quiet
  rw [Nat.zero_add] at table results
  simp only [lifetime, reset]
  exact ⟨connected, results, by rw [table, afterOpens_channels]⟩

/-- A card answering `90 00` to everything but `MANAGE CHANNEL OPEN`: a channel is opened and then
closed. -/
theorem lifetime_channels_open_close :
    let card : ChannelCard :=
      ⟨⟨.last none none none, [], by decide, none, rfl⟩, by decide, fun _ _ => .status 0 0x90 0x00⟩
    let calls : List Call := [.logicChannelOpen ⟨[0xA0, 0x00, 0x00, 0x05, 0x59], by decide⟩,
      .logicChannelClose 1]
    let b : Board := ⟨[], [], false, false, []⟩
    card.Conforms ∧ (∀ c ok, Call.transmit c ok ∈ calls → c.ins ≠ 0x70) ∧
      (card.lifetime calls b).1 = 0 ∧
      List.Forall₂ (fun r k => r = -1 ∨ (r = k ∧ k ≤ 19)) (card.lifetime calls b).2.1
        (List.range' 1 (Call.opens calls)) ∧
      (card.lifetime calls b).2.2.2.channels = (List.range' 1 (min (Call.opens calls) 19)).reverse := by
  intro card calls b
  have conforms : card.Conforms := fun _ _ => ⟨(by decide : statusByte 0x90), trivial, trivial⟩
  have noManage : ∀ c ok, Call.transmit c ok ∈ calls → c.ins ≠ 0x70 := by
    intro c ok member
    simp [calls] at member
  exact ⟨conforms, noManage, lifetime_channels card conforms calls noManage b⟩

end ChannelCard

end LpacEspidf.Card
