import LpacEspidf.Apdu.Interface

/-!
# Logical channels on the card

The card's side of `MANAGE CHANNEL` (ISO 7816-4): OPEN (`P1 = 00`) assigns the lowest free channel
and returns it; CLOSE (`P1 = 80`) releases the channel `P2` names, or the one `CLA` carries when
`P2 = 00`, and changes nothing otherwise; a cold reset closes them all.  A command shorter than a
header, or with another `INS`, leaves the channels as they are.

The driver closes with `APDU_CLOSELOGICCHANNEL` as it stands, `00 70 80 FF 00`, whatever channel it
is given: `P2 = FF` names no channel, so `logic_channel_close` closes nothing
(`apduInterfaceLogicChannelClose_closes_nothing`), and `logic_channel_open`, which sends no CLOSE,
leaves the channel the card gave it open when the `SELECT` fails
(`apduInterfaceLogicChannelOpen_closes_nothing`).
-/

set_option autoImplicit false

namespace LpacEspidf.Card

open LpacEspidf.Apdu

/-- The logical channels open beside the basic channel 0, each in 1..19. -/
@[ext]
structure ChannelTable where
  channels : List Nat
  nodup : channels.Nodup
  bounded : ∀ c ∈ channels, 1 ≤ c ∧ c ≤ 19

namespace ChannelTable

def empty : ChannelTable := ⟨[], List.nodup_nil, by simp⟩

def erase (t : ChannelTable) (c : Nat) : ChannelTable :=
  ⟨t.channels.erase c, t.nodup.erase c, fun x member => t.bounded x (List.mem_of_mem_erase member)⟩

def openLowest (t : ChannelTable) : Option (Nat × ChannelTable) :=
  match found : (List.range' 1 19).find? (fun c => !t.channels.contains c) with
  | none => none
  | some c =>
    have free : c ∉ t.channels := by simpa using List.find?_some found
    have range := List.mem_range'_1.mp (List.mem_of_find?_eq_some found)
    some (c, ⟨c :: t.channels, List.nodup_cons.mpr ⟨free, t.nodup⟩, by
      intro x member
      rcases List.mem_cons.mp member with rfl | old
      · omega
      · exact t.bounded x old⟩)

theorem openLowest_channels {t : ChannelTable} {c : Nat} {opened : ChannelTable}
    (lowest : t.openLowest = some (c, opened)) : opened.channels = c :: t.channels := by
  unfold openLowest at lowest
  split at lowest <;> cases lowest
  rfl

theorem openLowest_map_fst (t : ChannelTable) :
    t.openLowest.map Prod.fst = (List.range' 1 19).find? (fun c => !t.channels.contains c) := by
  unfold openLowest
  split <;> rename_i found <;> exact found.symm

theorem openLowest_of_find (t : ChannelTable) (c : Nat)
    (found : (List.range' 1 19).find? (fun c => !t.channels.contains c) = some c) :
    ∃ opened : ChannelTable, t.openLowest = some (c, opened) ∧ opened.channels = c :: t.channels := by
  obtain ⟨⟨c, opened⟩, lowest, rfl⟩ := Option.map_eq_some'.mp (t.openLowest_map_fst.trans found)
  exact ⟨opened, lowest, openLowest_channels lowest⟩

theorem openLowest_of_full (t : ChannelTable)
    (full : (List.range' 1 19).find? (fun c => !t.channels.contains c) = none) : t.openLowest = none :=
  Option.map_eq_none'.mp (t.openLowest_map_fst.trans full)

theorem find_free_after (k : Nat) (le : k ≤ 19) :
    (List.range' 1 19).find? (fun c => !((List.range' 1 k).reverse.contains c)) =
      if k < 19 then some (k + 1) else none := by
  have split : List.range' 1 19 = List.range' 1 k ++ List.range' (1 + k) (19 - k) := by
    rw [show 1 + k = 1 + 1 * k by omega, List.range'_append, Nat.sub_add_cancel le]
  have taken : (List.range' 1 k).find? (fun c => !((List.range' 1 k).reverse.contains c)) = none :=
    List.find?_eq_none.mpr fun x member => by simp [member]
  rw [split, List.find?_append, taken, Option.none_or]
  by_cases lt : k < 19
  · obtain ⟨n, rest⟩ : ∃ n, 19 - k = n + 1 := ⟨18 - k, by omega⟩
    rw [if_pos lt, rest, List.range'_succ, List.find?_cons_of_pos _ (by simp), Nat.add_comm]
  · rw [if_neg lt, show 19 - k = 0 by omega]
    rfl

theorem erase_of_gt (t : ChannelTable) (c : Nat) (beyond : 19 < c) : t.erase c = t :=
  ChannelTable.ext (List.erase_of_not_mem fun member => by have := t.bounded c member; omega)

end ChannelTable

/-- The channel `CLA` carries: bits 1-0 of the first interindustry classes `0X`-`3X`, bits 3-0
plus 4 of the further ones `4X`-`7X`. -/
def claChannel (cla : UInt8) : Nat :=
  if cla &&& 0x40 = 0 then (cla &&& 0x03).toNat else (cla &&& 0x0F).toNat + 4

/-- `MANAGE CHANNEL` as the card runs it on a command: the channels after it, and the channel an
OPEN returns. -/
def manageChannel (t : ChannelTable) (cmd : List UInt8) : ChannelTable × Option Nat :=
  if 5 ≤ cmd.length ∧ cmd.getD 1 0 = 0x70 then
    if cmd.getD 2 0 = 0x00 then
      match t.openLowest with
      | some (c, opened) => (opened, some c)
      | none => (t, none)
    else if cmd.getD 2 0 = 0x80 then
      (t.erase (if cmd.getD 3 0 = 0 then claChannel (cmd.getD 0 0) else (cmd.getD 3 0).toNat), none)
    else (t, none)
  else (t, none)

section Card
variable (t : ChannelTable)

theorem manageChannel_other (cmd : List UInt8) (other : cmd.length < 5 ∨ cmd.getD 1 0 ≠ 0x70) :
    manageChannel t cmd = (t, none) := by
  rw [manageChannel, if_neg fun ⟨long, ins⟩ => other.elim (by omega) (· ins)]

theorem manageChannel_closeLogicChannel : manageChannel t apduCloseLogicChannel = (t, none) := by
  have closes : manageChannel t apduCloseLogicChannel = (t.erase 255, none) := rfl
  rw [closes, t.erase_of_gt 255 (by decide)]

theorem manageChannel_openLogicChannel : manageChannel t apduOpenLogicChannel =
    match t.openLowest with
    | some (c, opened) => (opened, some c)
    | none => (t, none) := rfl

theorem manageChannel_append (cmd more : List UInt8) (header : 5 ≤ cmd.length) :
    manageChannel t (cmd ++ more) = manageChannel t cmd := by
  have get (i : Nat) (lt : i < 5) : (cmd ++ more).getD i 0 = cmd.getD i 0 := by
    simp only [List.getD_eq_getElem?_getD, List.getElem?_append_left (show i < cmd.length by omega)]
  have long : 5 ≤ (cmd ++ more).length := by
    rw [List.length_append]
    omega
  simp only [manageChannel, get 0 (by decide), get 1 (by decide), get 2 (by decide), get 3 (by decide),
    long, header, true_and]

theorem manageChannel_open_le {ch : Nat} (opened : (manageChannel t apduOpenLogicChannel).2 = some ch) :
    ch ≤ 19 := by
  rw [manageChannel_openLogicChannel] at opened
  split at opened
  · rename_i c t' lowest
    cases opened
    exact (t'.bounded ch (by rw [ChannelTable.openLowest_channels lowest]; exact List.mem_cons_self _ _)).2
  · cases opened

theorem manageChannel_open_range (k : Nat) (le : k ≤ 19)
    (channels : t.channels = (List.range' 1 k).reverse) :
    (manageChannel t apduOpenLogicChannel).2 = (if k < 19 then some (k + 1) else none) ∧
      (manageChannel t apduOpenLogicChannel).1.channels = (List.range' 1 (min (k + 1) 19)).reverse := by
  have free := ChannelTable.find_free_after k le
  rw [← channels] at free
  rw [manageChannel_openLogicChannel]
  by_cases lt : k < 19
  · rw [if_pos lt] at free
    obtain ⟨opened, lowest, grown⟩ := t.openLowest_of_find _ free
    rw [lowest, if_pos lt, min_eq_left (by omega), List.range'_concat, List.reverse_append]
    exact ⟨rfl, by rw [grown, channels]; simp [Nat.add_comm]⟩
  · rw [if_neg lt] at free
    rw [t.openLowest_of_full free, if_neg lt, channels, show k = 19 by omega]
    exact ⟨rfl, rfl⟩

theorem manageChannel_openLogicChannel_empty :
    (manageChannel .empty apduOpenLogicChannel).2 = some 1 ∧
      (manageChannel .empty apduOpenLogicChannel).1.channels = [1] := by
  decide

end Card

def afterOpens : Nat → ChannelTable
  | 0 => .empty
  | k + 1 => (manageChannel (afterOpens k) apduOpenLogicChannel).1

theorem afterOpens_channels (k : Nat) : (afterOpens k).channels = (List.range' 1 (min k 19)).reverse := by
  induction k with
  | zero => rfl
  | succ k ih =>
    rw [afterOpens, (manageChannel_open_range _ (min k 19) (Nat.min_le_right _ _) ih).2,
      show min (min k 19 + 1) 19 = min (k + 1) 19 by omega]

theorem manageChannel_afterOpens (k : Nat) :
    (manageChannel (afterOpens k) apduOpenLogicChannel).2 = if k < 19 then some (k + 1) else none := by
  rw [(manageChannel_open_range _ (min k 19) (Nat.min_le_right _ _) (afterOpens_channels k)).1]
  by_cases lt : k < 19
  · rw [if_pos lt, if_pos (by omega), min_eq_left (by omega)]
  · rw [if_neg lt, if_neg (by omega)]

/-! ## What the driver's calls do to the card's channels -/

/-- Whatever channel it is given, whatever the line does and whatever channels are open,
`logic_channel_close` closes none of them. -/
theorem apduInterfaceLogicChannelClose_closes_nothing (channel : UInt8) (b : Board)
    (t : ChannelTable) :
    ∃ cmd, ((apduInterfaceLogicChannelClose channel).run b).2.sent = b.sent ++ cmd ∧
      manageChannel t cmd = (t, none) := by
  rcases apduInterfaceLogicChannelClose_sent channel b with same | closed
  · exact ⟨[], by rw [same, List.append_nil], manageChannel_other t [] (.inl (by decide))⟩
  · exact ⟨_, closed, manageChannel_closeLogicChannel t⟩

/-- `logic_channel_open` sends a prefix of `MANAGE CHANNEL OPEN`, and after it nothing that closes a
channel: when the `SELECT` fails, the channel the card gave stays open. -/
theorem apduInterfaceLogicChannelOpen_closes_nothing (aid : Aid) (b : Board) (t : ChannelTable) :
    ∃ k ∈ [0, 5, 5], ∃ select,
      ((apduInterfaceLogicChannelOpen aid).run b).2.sent =
        b.sent ++ apduOpenLogicChannel.take k ++ select ∧ manageChannel t select = (t, none) := by
  obtain ⟨k, mem, channel, k', sent⟩ := apduInterfaceLogicChannelOpen_sent aid b
  refine ⟨k, mem, _, sent, manageChannel_other t _ ?_⟩
  by_cases short : k' < 2
  · refine .inl ?_
    simp only [List.length_take]
    omega
  · obtain ⟨k', rfl⟩ := Nat.exists_eq_add_of_le (Nat.not_lt.mp short)
    refine .inr ?_
    rw [Nat.add_comm, List.cons_append, List.cons_append, List.take_succ_cons, List.take_succ_cons]
    show (0xA4 : UInt8) ≠ 0x70
    decide

/-- Channel 1, the first the card opens after reset, handed to the caller and then closed: whatever
the line does, the card still has it open. -/
theorem apduInterfaceLogicChannelClose_keeps_channel_open :
    (manageChannel .empty apduOpenLogicChannel).2 = some 1 ∧ ∀ b : Board, ∃ cmd,
      ((apduInterfaceLogicChannelClose 1).run b).2.sent = b.sent ++ cmd ∧
        (manageChannel (manageChannel .empty apduOpenLogicChannel).1 cmd).1.channels = [1] := by
  refine ⟨manageChannel_openLogicChannel_empty.1, fun b => ?_⟩
  obtain ⟨cmd, sent, kept⟩ :=
    apduInterfaceLogicChannelClose_closes_nothing 1 b (manageChannel .empty apduOpenLogicChannel).1
  exact ⟨cmd, sent, by rw [kept]; exact manageChannel_openLogicChannel_empty.2⟩

end LpacEspidf.Card
