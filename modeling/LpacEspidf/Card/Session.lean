import LpacEspidf.Card.T0
import LpacEspidf.Apdu.Interface

/-!
# Sessions with a T=0 card

The eUICC as a party of the protocol: a card is a state machine that answers each command it is
sent by the T=0 rules.  A session is any sequence of `apdu_interface_transmit` calls, each with
whether its `malloc` succeeds.  During a call, the line first delivers what is still buffered from
before, then the card's answer to the command; a silence between two calls is not carried over,
since the echo of the next command only comes after the driver has written it.

At the level of APDUs the caller wants the card's response to every command it sent
(`T0Card.responses`), and the card to receive each command once, in order (`T0Card.received`).
`transmitRaw_t0_run` is one exchange, and says where it leaves the line: nothing of the answer is
left in the receive buffer.  So exchanges compose, and `transmitSession_refines` says that a session
of the driver with a card that answers by the rules is that APDU-level session, whatever the card
and whatever the commands.
-/

set_option autoImplicit false

namespace LpacEspidf.Card

open LpacEspidf.Apdu

/-- A card: the answer it gives to a command in a state, and the state it goes to. -/
structure T0Card (σ : Type) where
  answer : σ → ShortCommand → CardAnswer × σ

namespace T0Card

variable {σ : Type} (card : T0Card σ)

/-- The card answers every command by the T=0 rules, in a way the driver can read. -/
def Conforms : Prop :=
  ∀ st c, (card.answer st c).1.Valid c ∧ (card.answer st c).1.Readable c ∧
    (card.answer st c).1.KeepsSw2 c

/-- The responses the caller is after: the card's response APDU to each command it is sent; a call
whose buffer cannot be allocated sends nothing and gets none. -/
def responses : σ → List (ShortCommand × Bool) → List (Option (List UInt8))
  | _, [] => []
  | st, (_, false) :: calls => none :: responses st calls
  | st, (c, true) :: calls =>
      some (card.answer st c).1.response :: responses (card.answer st c).2 calls

/-- What the card receives over the session, command after command. -/
def received : σ → List (ShortCommand × Bool) → List UInt8
  | _, [] => []
  | st, (_, false) :: calls => received st calls
  | st, (c, true) :: calls => (card.answer st c).1.received c ++ received (card.answer st c).2 calls

end T0Card

/-- One `apdu_interface_transmit` of `c` with the card on the line: when the buffer is allocated the
card answers `c`, and the line delivers what was still buffered and then the answer. -/
def transmitTo {σ : Type} (card : T0Card σ) (c : ShortCommand) (mallocOk : Bool) (b : Board)
    (st : σ) : (Int × RxBuffer) × Board × σ :=
  if mallocOk then
    let r := (apduInterfaceTransmit c.bytes c.bytes.length.toUInt32 true).run
      { b with incoming := b.incoming.takeWhile Option.isSome ++ (card.answer st c).1.stream c }
    (r.1, r.2, (card.answer st c).2)
  else
    let r := (apduInterfaceTransmit c.bytes c.bytes.length.toUInt32 false).run b
    (r.1, r.2, st)

def transmitSession {σ : Type} (card : T0Card σ) :
    List (ShortCommand × Bool) → Board → σ → List (Int × RxBuffer) × Board × σ
  | [], b, st => ([], b, st)
  | (c, ok) :: calls, b, st =>
      let first := transmitTo card c ok b st
      let rest := transmitSession card calls first.2.1 first.2.2
      (first.1 :: rest.1, rest.2)

def transmitResult : Option (List UInt8) → Int × RxBuffer
  | none => (-1, .null)
  | some response => (0, .response response)

theorem toUInt8_toUInt32 (n : Nat) : n.toUInt32.toUInt8 = n.toUInt8 :=
  UInt8.eq_of_val_eq (Fin.ext (by show (n % 2 ^ 32) % 256 = n % 256; omega))

section Step

variable {σ : Type} (card : T0Card σ) (conforms : card.Conforms)
include conforms

theorem transmitTo_t0 (c : ShortCommand) (ok : Bool) (b : Board) (st : σ)
    (quiet : b.incoming.takeWhile Option.isSome = []) :
    (transmitTo card c ok b st).1 =
        transmitResult (if ok then some (card.answer st c).1.response else none) ∧
      (transmitTo card c ok b st).2.1.sent =
        b.sent ++ (if ok then (card.answer st c).1.received c else []) ∧
      (transmitTo card c ok b st).2.1.incoming.takeWhile Option.isSome = [] ∧
      (transmitTo card c ok b st).2.2 = if ok then (card.answer st c).2 else st := by
  cases ok with
  | false => exact ⟨rfl, (List.append_nil _).symm, quiet, rfl⟩
  | true =>
    obtain ⟨valid, readable, kept⟩ := conforms st c
    obtain ⟨rest, silence, run⟩ := transmitRaw_t0_run c b [] _ valid readable kept
    have line : { b with incoming := b.incoming.takeWhile Option.isSome ++
        (card.answer st c).1.stream c } = { b with incoming := (card.answer st c).1.stream c ++ [] } := by
      rw [quiet, List.nil_append, List.append_nil]
    have call : transmitTo card c true b st = ((0, .response (card.answer st c).1.response),
        { b with sent := b.sent ++ (card.answer st c).1.received c, incoming := rest ++ [] },
        (card.answer st c).2) := by
      simp only [transmitTo, if_true, line, apduInterfaceTransmit_run, toUInt8_toUInt32, run]
      rfl
    rw [call]
    refine ⟨rfl, rfl, ?_, rfl⟩
    rcases silence with rfl | rfl <;> rfl

/-- A session with a card that answers by the T=0 rules is the session at the level of APDUs: each
call returns the card's response to its command, or fails before sending anything when its buffer
cannot be allocated, and the card receives the commands in turn, each once. -/
theorem transmitSession_refines (calls : List (ShortCommand × Bool)) (b : Board) (st : σ)
    (quiet : b.incoming.takeWhile Option.isSome = []) :
    (transmitSession card calls b st).1 = (card.responses st calls).map transmitResult ∧
      (transmitSession card calls b st).2.1.sent = b.sent ++ card.received st calls := by
  induction calls generalizing b st with
  | nil => exact ⟨rfl, (List.append_nil _).symm⟩
  | cons call calls ih =>
    obtain ⟨c, ok⟩ := call
    obtain ⟨result, sent, after, state⟩ := transmitTo_t0 card conforms c ok b st quiet
    obtain ⟨results, sentAll⟩ := ih _ (transmitTo card c ok b st).2.2 after
    simp only [transmitSession]
    rw [state] at results sentAll ⊢
    rw [results, sentAll, sent, result]
    cases ok <;> simp [T0Card.responses, T0Card.received]

end Step

/-- A card answering `90 00` to everything: a `SELECT` of the master file, then a call whose buffer
cannot be allocated. -/
theorem transmitSession_select_mf :
    let card : T0Card Unit := ⟨fun _ _ => (.status 0 0x90 0x00, ())⟩
    let select : ShortCommand := ⟨0x00, 0xA4, 0x00, 0x00, 0x02, [0x3F, 0x00], by decide, by decide, by decide⟩
    let calls := [(select, true), (select, false)]
    let b : Board := ⟨[], [], true, true, []⟩
    (transmitSession card calls b ()).1 = (card.responses () calls).map transmitResult ∧
      (transmitSession card calls b ()).2.1.sent = b.sent ++ card.received () calls := by
  intro card select calls b
  exact transmitSession_refines card (fun _ _ => ⟨(by decide : statusByte 0x90), trivial, trivial⟩)
    calls b () rfl

end LpacEspidf.Card
