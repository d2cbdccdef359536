import LpacEspidf.Apdu.Line

/-!
# Reset and Answer To Reset

`_reset_card` cold-resets the card and `_wait_for_card` reads its Answer To Reset: `TS = 0x3B`,
then `T0`, the interface bytes announced by `T0`'s high nibble, `K = T0 & 0x0F` further bytes, and
after a settling delay every byte still buffered.  Repeated `0x3B` bytes after `TS` are taken for
a repeated `TS`, so a `T0` that is itself `0x3B` is skipped.

`Atr` is the syntax of a direct-convention ATR with its interface-byte chain, built so that only
well-formed ones exist.  `waitForCard_reads_atr` says the driver reads every such ATR whose `T0` is
not `0x3B` to its end; `waitForCard_skips_t0` shows the one whose `T0` is.

What the reader accepts is less than an ATR: `waitForCard_accepts_iff` says it returns 0 exactly
on a line that starts with `TS`, any further `0x3B`, a `T0` other than `0x3B` and the bytes of the
first interface group and of the historical part, whatever follows before the next silence (the
later groups and `TCK`, or anything else), which it drains.
-/

set_option autoImplicit false

namespace LpacEspidf.Apdu

/-- `_reset_card`: both lines low, card power back on, the receiver flushed, `RESET_PIN` released. -/
def resetCard : StateM Board Unit := do
  gpioSetLevel .reset false
  gpioSetLevel .simOn false
  gpioSetLevel .simOn true
  uartFlush
  gpioSetLevel .reset true

theorem takeWhile_dropWhile_isSome (l : List (Option UInt8)) :
    (l.dropWhile Option.isSome).takeWhile Option.isSome = [] := by
  induction l with
  | nil => rfl
  | cons e l ih =>
    cases e with
    | none => rfl
    | some x => exact ih

theorem resetCard_run (b : Board) :
    resetCard.run b = ((), { b with
      simOn := true, reset := true, incoming := b.answersToReset.headD [],
      answersToReset := b.answersToReset.tail }) := by
  show (((), ({ b with
      simOn := true, reset := true,
      incoming := (b.incoming.dropWhile Option.isSome).takeWhile Option.isSome ++ b.answersToReset.headD [],
      answersToReset := b.answersToReset.tail } : Board)) : Unit × Board) = _
  rw [takeWhile_dropWhile_isSome, List.nil_append]

/-- The `while (data == 0x3B)` loop: each further `0x3B` is taken for a repeated `TS` and the first
other byte is `T0`; a silence is `none` ("No response T0"). -/
def skipRepeatedTs : List (Option UInt8) → Option UInt8 × List (Option UInt8)
  | [] => (none, [])
  | none :: rest => (none, rest)
  | some data :: rest => if data = 0x3B then skipRepeatedTs rest else (some data, rest)

/-- The loop over `i = 0 .. 3`: one byte for each bit `0x10 << i` set in `T0`; `false` on a silence. -/
def readInterfaceBytes (t0 : UInt8) : List Nat → StateM Board Bool
  | [] => return true
  | i :: is => do
    if t0.toNat &&& (0x10 <<< i) ≠ 0 then
      if (← uartReadBytes 1).length ≠ 1 then
        return false
    readInterfaceBytes t0 is

/-- `k` single-byte reads, as the loop over the historical bytes does them; `false` on a silence. -/
def readBytesEach : Nat → StateM Board Bool
  | 0 => return true
  | k + 1 => do
    if (← uartReadBytes 1).length ≠ 1 then
      return false
    readBytesEach k

/-- The final `while (s)` loop: `s` single-byte reads, whatever they return. -/
def drainBytes : Nat → StateM Board Unit
  | 0 => return ()
  | s + 1 => do
    let _ ← uartReadBytes 1
    drainBytes s

/-- `_wait_for_card`; the retry loop runs once. -/
def waitForCard : StateM Board Int := do
  let [data] ← uartReadBytes 1 | return -1
  if data ≠ 0x3B then
    let _ ← uartGetBufferedDataLen
    return -1
  let some t0 ← onIncoming skipRepeatedTs | return -1
  if !(← readInterfaceBytes t0 (List.range 4)) then
    return -1
  if !(← readBytesEach (t0.toNat &&& 0xF)) then
    return -1
  let s ← uartGetBufferedDataLen
  drainBytes s
  return 0

/-! ## Well-formed ATRs -/

/-- The interface bytes `TAi`, `TBi`, `TCi` of one group, each present or not; `more` carries the
protocol `T` that `TDi` announces and the group `TDi` introduces. -/
inductive AtrGroups where
  | last (ta tb tc : Option UInt8)
  | more (ta tb tc : Option UInt8) (t : Fin 16) (next : AtrGroups)

namespace AtrGroups

def bit (present : Bool) (weight : Nat) : Nat := if present then weight else 0

def y : AtrGroups → Nat
  | last ta tb tc => bit ta.isSome 1 + bit tb.isSome 2 + bit tc.isSome 4
  | more ta tb tc _ _ => bit ta.isSome 1 + bit tb.isSome 2 + bit tc.isSome 4 + 8

def bytes : AtrGroups → List UInt8
  | last ta tb tc => ta.toList ++ tb.toList ++ tc.toList
  | more ta tb tc t next =>
    ta.toList ++ tb.toList ++ tc.toList ++ [(next.y * 16 + t.val).toUInt8] ++ next.bytes

def firstLength : AtrGroups → Nat
  | last ta tb tc => ta.toList.length + tb.toList.length + tc.toList.length
  | more ta tb tc _ _ => ta.toList.length + tb.toList.length + tc.toList.length + 1

def needsTck : AtrGroups → Bool
  | last _ _ _ => false
  | more _ _ _ t next => t ≠ 0 || next.needsTck

end AtrGroups

/-- A syntactically well-formed direct-convention ATR. -/
structure Atr where
  groups : AtrGroups
  historical : List UInt8
  historical_lt : historical.length < 16
  tck : Option UInt8
  tck_iff : tck.isSome = groups.needsTck

namespace Atr

def t0 (a : Atr) : UInt8 := (a.groups.y * 16 + a.historical.length).toUInt8

def bytes (a : Atr) : List UInt8 :=
  0x3B :: a.t0 :: a.groups.bytes ++ a.historical ++ a.tck.toList

end Atr

/-! ## Reading an ATR -/

def interfaceCount (t0 : UInt8) : Nat :=
  ((List.range 4).filter fun i => t0.toNat &&& (0x10 <<< i) ≠ 0).length

section Readers
variable (b : Board) (rest : List (Option UInt8))

theorem readInterfaceBytes_run (t0 : UInt8) (is : List Nat) (xs : List UInt8)
    (count : xs.length = (is.filter fun i => t0.toNat &&& (0x10 <<< i) ≠ 0).length) :
    (readInterfaceBytes t0 is).run { b with incoming := xs.map some ++ rest } =
      (true, { b with incoming := rest }) := by
  induction is generalizing xs with
  | nil =>
      rw [List.filter_nil, List.length_nil, List.length_eq_zero] at count
      subst count
      rfl
  | cons i is ih =>
      by_cases announced : t0.toNat &&& (0x10 <<< i) ≠ 0
      · rw [List.filter_cons_of_pos (by simpa using announced)] at count
        obtain ⟨x, xs, rfl⟩ := List.exists_cons_of_length_eq_add_one count
        simp only [readInterfaceBytes, if_pos announced, StateT.run_bind, uartReadBytes_run,
          List.map_cons, List.cons_append, takeBytes_some, takeBytes_zero, Id.bind_eq,
          List.length_singleton, ne_eq, not_true_eq_false, if_false, StateT.run_pure, Id.pure_eq]
        exact ih xs (by simpa using count)
      · rw [List.filter_cons_of_neg (by simpa using announced)] at count
        simp only [readInterfaceBytes, if_neg announced, StateT.run_bind, StateT.run_pure,
          Id.bind_eq, Id.pure_eq]
        exact ih xs count

theorem readBytesEach_run (xs : List UInt8) :
    (readBytesEach xs.length).run { b with incoming := xs.map some ++ rest } =
      (true, { b with incoming := rest }) := by
  induction xs generalizing b with
  | nil => rfl
  | cons x xs ih =>
      simp only [readBytesEach, List.length_cons, StateT.run_bind, uartReadBytes_run, List.map_cons,
        List.cons_append, takeBytes_some, takeBytes_zero, Id.bind_eq, List.length_singleton, ne_eq,
        not_true_eq_false, if_false, StateT.run_pure, Id.pure_eq]
      exact ih b

theorem readBytesEach_truncated (xs : List UInt8) (k : Nat) (short : xs.length < k) :
    (readBytesEach k).run { b with incoming := xs.map some } = (false, { b with incoming := [] }) := by
  obtain ⟨k, rfl⟩ := Nat.exists_eq_succ_of_ne_zero (Nat.not_eq_zero_of_lt short)
  induction xs generalizing k with
  | nil => rfl
  | cons x xs ih =>
      obtain ⟨k, rfl⟩ := Nat.exists_eq_succ_of_ne_zero (Nat.not_eq_zero_of_lt (Nat.lt_of_succ_lt_succ short))
      simp only [readBytesEach, StateT.run_bind, uartReadBytes_run, List.map_cons, takeBytes_some,
        takeBytes_zero, Id.bind_eq, List.length_singleton, ne_eq, not_true_eq_false, if_false]
      exact ih k (Nat.lt_of_succ_lt_succ short)

theorem drainBytes_run (xs : List UInt8) :
    (drainBytes xs.length).run { b with incoming := xs.map some ++ rest } =
      ((), { b with incoming := rest }) := by
  induction xs generalizing b with
  | nil => rfl
  | cons x xs ih =>
      simp only [drainBytes, List.length_cons, StateT.run_bind, uartReadBytes_run, List.map_cons,
        List.cons_append, takeBytes_some, takeBytes_zero, Id.bind_eq]
      exact ih b

end Readers

theorem t0_nibbles : ∀ y < 16, ∀ k < 16,
    interfaceCount (y * 16 + k).toUInt8 = ((List.range 4).filter fun i => y &&& (1 <<< i) ≠ 0).length ∧
      (y * 16 + k).toUInt8.toNat &&& 0xF = k := by
  decide

theorem AtrGroups.y_lt (g : AtrGroups) : g.y < 16 := by
  cases g <;> simp only [AtrGroups.y, AtrGroups.bit] <;> split_ifs <;> omega

theorem AtrGroups.popcount_y (g : AtrGroups) :
    ((List.range 4).filter fun i => g.y &&& (1 <<< i) ≠ 0).length = g.firstLength := by
  cases g with
  | last ta tb tc =>
      cases ta <;> cases tb <;> cases tc <;> simp [AtrGroups.y, AtrGroups.bit, AtrGroups.firstLength] <;> decide
  | more ta tb tc t next =>
      cases ta <;> cases tb <;> cases tc <;> simp [AtrGroups.y, AtrGroups.bit, AtrGroups.firstLength] <;> decide

theorem AtrGroups.firstLength_le (g : AtrGroups) : g.firstLength ≤ g.bytes.length := by
  cases g <;> simp [AtrGroups.firstLength, AtrGroups.bytes] <;> omega

theorem Atr.interfaceCount_t0 (a : Atr) : interfaceCount a.t0 = a.groups.firstLength := by
  rw [Atr.t0, (t0_nibbles _ a.groups.y_lt _ a.historical_lt).1, a.groups.popcount_y]

theorem Atr.historicalCount_t0 (a : Atr) : a.t0.toNat &&& 0xF = a.historical.length :=
  (t0_nibbles _ a.groups.y_lt _ a.historical_lt).2

theorem dropWhile_isSome_map_some (xs : List UInt8) (more : List (Option UInt8)) :
    (xs.map some ++ none :: more).dropWhile Option.isSome = none :: more := by
  induction xs with
  | nil => rfl
  | cons x xs ih => exact ih

theorem takeWhile_isSome_map_some (xs : List UInt8) : (xs.map some).takeWhile Option.isSome = xs.map some := by
  induction xs with
  | nil => rfl
  | cons x xs ih => simp [List.takeWhile_cons, ih]

theorem Atr.bytes_split (a : Atr) :
    ∃ xs ys zs, a.bytes = 0x3B :: a.t0 :: (xs ++ ys ++ zs) ∧ xs.length = a.groups.firstLength ∧
      ys.length = a.historical.length := by
  have enough := a.groups.firstLength_le
  let rest := a.groups.bytes.drop a.groups.firstLength ++ (a.historical ++ a.tck.toList)
  refine ⟨a.groups.bytes.take a.groups.firstLength, rest.take a.historical.length,
    rest.drop a.historical.length, ?_, by simp; omega, by simp [rest]; omega⟩
  simp only [Atr.bytes, List.cons_append, List.append_assoc, List.take_append_drop, List.cons.injEq,
    true_and, rest]
  rw [← List.append_assoc (List.take _ _), List.take_append_drop]

/-- Every well-formed ATR whose `T0` is not `0x3B`, sent in full with nothing after it: `T0` is the
byte after `TS`, `_wait_for_card` returns 0, and no byte of the ATR is left on the line. -/
theorem waitForCard_reads_atr (a : Atr) (notTs : a.t0 ≠ 0x3B) (b : Board) :
    (skipRepeatedTs (a.bytes.tail.map some)).1 = some a.t0 ∧
      waitForCard.run { b with incoming := a.bytes.map some } = (0, { b with incoming := [] }) := by
  obtain ⟨xs, ys, zs, bytes, xsLength, ysLength⟩ := a.bytes_split
  rw [bytes]
  refine ⟨by simp [skipRepeatedTs, notTs], ?_⟩
  have interface := readInterfaceBytes_run b ((ys ++ zs).map some) a.t0 (List.range 4) xs
    (by rw [xsLength, ← a.interfaceCount_t0]; rfl)
  have historical := readBytesEach_run b (zs.map some) ys
  have drain := drainBytes_run b [] zs
  simp only [List.map_append, List.append_assoc, List.append_nil] at interface historical drain
  simp only [waitForCard, StateT.run_bind, uartReadBytes_run, List.map_cons, takeBytes_some,
    takeBytes_zero, Id.bind_eq, ne_eq, not_true_eq_false, if_false, StateT.run_pure, Id.pure_eq,
    onIncoming_run, skipRepeatedTs, if_neg notTs, List.map_append, List.append_assoc, interface,
    Bool.not_true, Bool.false_eq_true, Atr.historicalCount_t0, ← ysLength, historical,
    uartGetBufferedDataLen_run, takeWhile_isSome_map_some, List.length_map, drain]

/-- `3B 12 11 80 31`: `TA1` and two historical bytes. -/
theorem waitForCard_reads_ta1_atr :
    let a : Atr := ⟨.last (some 0x11) none none, [0x80, 0x31], by decide, none, rfl⟩
    let b : Board := { incoming := [], sent := [], simOn := true, reset := true, answersToReset := [] }
    a.t0 ≠ 0x3B ∧ (skipRepeatedTs (a.bytes.tail.map some)).1 = some a.t0 ∧
      waitForCard.run { b with incoming := a.bytes.map some } = (0, { b with incoming := [] }) :=
  ⟨by decide, waitForCard_reads_atr _ (by decide) _⟩

/-- `T0 = 0x3B` announces `TA1`, `TB1` and eleven historical bytes, and is skipped as a repeated
`TS`: `TA1 = 0xFF` is taken for `T0` and asks for more bytes than the ATR has left. -/
theorem waitForCard_skips_t0 :
    let a : Atr := ⟨.last (some 0xFF) (some 0x00) none, List.replicate 11 0, by decide, none, rfl⟩
    ∀ b : Board, a.t0 = 0x3B ∧ (skipRepeatedTs (a.bytes.tail.map some)).1 = some 0xFF ∧
      waitForCard.run { b with incoming := a.bytes.map some } = (-1, { b with incoming := [] }) := by
  intro a b
  have bytes : a.bytes = 0x3B :: 0x3B :: 0xFF :: ([0x00, 0, 0, 0] ++ List.replicate 8 0) := rfl
  have skip (rest : List (Option UInt8)) :
      skipRepeatedTs (some 0x3B :: some 0xFF :: rest) = (some 0xFF, rest) := rfl
  have interface := readInterfaceBytes_run b ((List.replicate 8 0).map some) 0xFF (List.range 4)
    [0, 0, 0, 0] (by decide)
  have historical := readBytesEach_truncated b (List.replicate 8 0) ((0xFF : UInt8).toNat &&& 0xF)
    (by decide)
  simp only [List.map_cons, List.map_nil, List.cons_append, List.nil_append] at interface
  refine ⟨by decide, by rw [bytes]; rfl, ?_⟩
  simp only [bytes, waitForCard, List.map_cons, List.map_append, List.map_nil, List.cons_append,
    List.nil_append, StateT.run_bind, uartReadBytes_run, takeBytes_some, takeBytes_zero, Id.bind_eq,
    ne_eq, not_true_eq_false, if_false, StateT.run_pure, Id.pure_eq, onIncoming_run, skip, interface,
    Bool.not_true, Bool.not_false, Bool.false_eq_true, if_true, historical]

/-! ## Exactly what `_wait_for_card` accepts -/

section Accepts
variable (b : Board)

theorem readBytesEach_run_eq (n : Nat) :
    (readBytesEach n).run b =
      (decide ((takeBytes n b.incoming).1.length = n), { b with incoming := (takeBytes n b.incoming).2 }) := by
  induction n generalizing b with
  | zero => rfl
  | succ n ih =>
    obtain ⟨_ | ⟨_ | x, rest⟩, sent, simOn, reset, answers⟩ := b
    · rfl
    · rfl
    · simp only [readBytesEach, StateT.run_bind, uartReadBytes_run, takeBytes_some, takeBytes_zero,
        Id.bind_eq, List.length_singleton, ne_eq, not_true_eq_false, if_false]
      rw [ih]
      simp

theorem readInterfaceBytes_eq (t0 : UInt8) (is : List Nat) :
    (readInterfaceBytes t0 is).run b =
      (readBytesEach (is.filter fun i => t0.toNat &&& (0x10 <<< i) ≠ 0).length).run b := by
  induction is generalizing b with
  | nil => rfl
  | cons i is ih =>
    by_cases announced : t0.toNat &&& (0x10 <<< i) ≠ 0
    · rw [List.filter_cons_of_pos (by simpa using announced), List.length_cons]
      simp only [readInterfaceBytes, readBytesEach, if_pos announced, StateT.run_bind, Id.bind_eq]
      split <;> simp_all
    · rw [List.filter_cons_of_neg (by simpa using announced)]
      simp only [readInterfaceBytes, if_neg announced, StateT.run_bind, StateT.run_pure, Id.bind_eq, Id.pure_eq]
      exact ih b

theorem drainBytes_buffered (l : List (Option UInt8)) :
    (drainBytes (l.takeWhile Option.isSome).length).run { b with incoming := l } =
      ((), { b with incoming := l.dropWhile Option.isSome }) := by
  induction l generalizing b with
  | nil => rfl
  | cons e l ih =>
    cases e with
    | none => rfl
    | some x =>
      simp only [List.takeWhile_cons, List.dropWhile_cons, Option.isSome_some, if_true,
        List.length_cons, drainBytes, StateT.run_bind, uartReadBytes_run, takeBytes_some,
        takeBytes_zero, Id.bind_eq]
      exact ih b

theorem takeBytes_full (n : Nat) (l : List (Option UInt8)) (full : (takeBytes n l).1.length = n) :
    l = (takeBytes n l).1.map some ++ (takeBytes n l).2 := by
  induction n generalizing l with
  | zero => rfl
  | succ n ih =>
    match l, full with
    | some x :: rest, full =>
      simp only [takeBytes_some, List.length_cons, Nat.add_right_cancel_iff] at full ⊢
      rw [List.map_cons, List.cons_append, ← ih rest full]

theorem skipRepeatedTs_eq_some (l rest : List (Option UInt8)) (t0 : UInt8) :
    skipRepeatedTs l = (some t0, rest) ↔
      t0 ≠ 0x3B ∧ ∃ k, l = List.replicate k (some 0x3B) ++ some t0 :: rest := by
  induction l with
  | nil => exact iff_of_false (fun same => by cases same) fun ⟨_, k, same⟩ => by cases k <;> cases same
  | cons e l ih =>
    cases e with
    | none => exact iff_of_false (fun same => by cases same) fun ⟨_, k, same⟩ => by cases k <;> cases same
    | some d =>
      by_cases ts : d = 0x3B
      · subst ts
        rw [skipRepeatedTs, if_pos rfl, ih]
        constructor
        · rintro ⟨notTs, k, rfl⟩
          exact ⟨notTs, k + 1, rfl⟩
        · rintro ⟨notTs, k, same⟩
          cases k with
          | zero => exact absurd (Option.some.inj (List.cons.inj same).1).symm notTs
          | succ k => exact ⟨notTs, k, (List.cons.inj same).2⟩
      · rw [skipRepeatedTs, if_neg ts, Prod.mk.injEq, Option.some.injEq]
        constructor
        · rintro ⟨rfl, rfl⟩
          exact ⟨ts, 0, rfl⟩
        · rintro ⟨-, k, same⟩
          cases k with
          | zero => exact ⟨Option.some.inj (List.cons.inj same).1, (List.cons.inj same).2⟩
          | succ k => exact absurd (Option.some.inj (List.cons.inj same).1) ts

theorem readInterfaceBytes_range (t0 : UInt8) :
    (readInterfaceBytes t0 (List.range 4)).run b = (readBytesEach (interfaceCount t0)).run b :=
  readInterfaceBytes_eq b t0 _

theorem bytes_after_ts (k : Nat) (t0 : UInt8) (zs : List UInt8) (rest : List (Option UInt8)) :
    (0x3B :: List.replicate k 0x3B ++ t0 :: zs).map some ++ rest =
      some 0x3B :: (List.replicate k (some 0x3B) ++ some t0 :: (zs.map some ++ rest)) := by
  simp [List.map_replicate]

theorem atr_of_waitForCard_accepts {b' : Board} (run : waitForCard.run b = (0, b')) :
    ∃ k t0 xs ys rest, t0 ≠ 0x3B ∧ xs.length = interfaceCount t0 ∧
      ys.length = t0.toNat &&& 0xF ∧
      b.incoming = (0x3B :: List.replicate k 0x3B ++ t0 :: (xs ++ ys)).map some ++ rest ∧
      b' = { b with incoming := rest.dropWhile Option.isSome } := by
  /- Every early exit returns -1. -/
  have refused : ∀ s : Board, ((-1 : Int), s) ≠ (0, b') := fun s same =>
    (by decide : (-1 : Int) ≠ 0) (congrArg Prod.fst same)
  simp only [waitForCard, StateT.run_bind, uartReadBytes_run, Id.bind_eq] at run
  rcases line : b.incoming with _ | ⟨_ | data, l⟩
  · simp only [line, takeBytes_nil, StateT.run_pure, Id.pure_eq] at run
    exact (refused _ run).elim
  · simp only [line, takeBytes_none, StateT.run_pure, Id.pure_eq] at run
    exact (refused _ run).elim
  simp only [line, takeBytes_some, takeBytes_zero] at run
  by_cases ts : data = 0x3B
  swap
  · simp only [ne_eq, ts, not_false_eq_true, if_true, StateT.run_bind, uartGetBufferedDataLen_run,
      StateT.run_pure, Id.bind_eq, Id.pure_eq] at run
    exact (refused _ run).elim
  subst ts
  simp only [ne_eq, not_true_eq_false, if_false, StateT.run_bind, StateT.run_pure, Id.bind_eq,
    Id.pure_eq, onIncoming_run] at run
  rcases skip : skipRepeatedTs l with ⟨_ | t0, l₂⟩
  · simp only [skip, StateT.run_pure, Id.pure_eq] at run
    exact (refused _ run).elim
  obtain ⟨notTs, k, rfl⟩ := (skipRepeatedTs_eq_some l l₂ t0).mp skip
  simp only [skip, StateT.run_bind, Id.bind_eq, readInterfaceBytes_range, readBytesEach_run_eq] at run
  by_cases first : (takeBytes (interfaceCount t0) l₂).1.length = interfaceCount t0
  swap
  · simp only [first, decide_False, Bool.not_false, if_true, StateT.run_pure, Id.pure_eq] at run
    exact (refused _ run).elim
  by_cases second : (takeBytes (t0.toNat &&& 15) (takeBytes (interfaceCount t0) l₂).2).1.length =
      t0.toNat &&& 15
  swap
  · simp only [first, second, decide_True, decide_False, Bool.not_true, Bool.not_false,
      Bool.false_eq_true, if_false, if_true, StateT.run_bind, StateT.run_pure, Id.bind_eq, Id.pure_eq,
      readBytesEach_run_eq] at run
    exact (refused _ run).elim
  simp only [first, second, decide_True, Bool.not_true, Bool.false_eq_true, if_false,
    StateT.run_bind, StateT.run_pure, Id.bind_eq, Id.pure_eq, readBytesEach_run_eq,
    uartGetBufferedDataLen_run, drainBytes_buffered] at run
  refine ⟨k, t0, _, _, _, notTs, first, second, ?_, (Prod.mk.inj run).2.symm⟩
  rw [bytes_after_ts, List.map_append, List.append_assoc,
    ← takeBytes_full _ _ second, ← takeBytes_full _ _ first]

theorem waitForCard_run_of_atr (k : Nat) (t0 : UInt8) (xs ys : List UInt8) (rest : List (Option UInt8))
    (notTs : t0 ≠ 0x3B) (xsLength : xs.length = interfaceCount t0) (ysLength : ys.length = t0.toNat &&& 0xF)
    (line : b.incoming = (0x3B :: List.replicate k 0x3B ++ t0 :: (xs ++ ys)).map some ++ rest) :
    waitForCard.run b = (0, { b with incoming := rest.dropWhile Option.isSome }) := by
  rw [bytes_after_ts] at line
  have skip := (skipRepeatedTs_eq_some _ ((xs ++ ys).map some ++ rest) t0).mpr ⟨notTs, k, rfl⟩
  have interface : takeBytes (interfaceCount t0) ((xs ++ ys).map some ++ rest) = (xs, ys.map some ++ rest) := by
    rw [← xsLength, List.map_append, List.append_assoc, takeBytes_map_some_append]
  have historical : takeBytes (t0.toNat &&& 15) (ys.map some ++ rest) = (ys, rest) := by
    rw [← ysLength, takeBytes_map_some_append]
  simp only [waitForCard, StateT.run_bind, uartReadBytes_run, Id.bind_eq, line, takeBytes_some,
    takeBytes_zero, ne_eq, not_true_eq_false, if_false, StateT.run_pure, Id.pure_eq,
    onIncoming_run, skip, readInterfaceBytes_range, readBytesEach_run_eq, interface, xsLength,
    historical, ysLength, decide_True, Bool.not_true, Bool.false_eq_true,
    uartGetBufferedDataLen_run, drainBytes_buffered]

/-- For every line, `_wait_for_card` returns 0 exactly when the line starts with `TS = 0x3B`, any
number of further `0x3B`, a `T0` other than `0x3B`, the interface bytes `T0`'s high nibble announces
and the `K` historical bytes its low nibble counts, with no silence among them.  It then drains
whatever else comes before the next silence, later interface groups and `TCK` included, unchecked. -/
theorem waitForCard_accepts_iff (b' : Board) :
    waitForCard.run b = (0, b') ↔
      ∃ k t0 xs ys rest, t0 ≠ 0x3B ∧ xs.length = interfaceCount t0 ∧
        ys.length = t0.toNat &&& 0xF ∧
        b.incoming = (0x3B :: List.replicate k 0x3B ++ t0 :: (xs ++ ys)).map some ++ rest ∧
        b' = { b with incoming := rest.dropWhile Option.isSome } := by
  refine ⟨atr_of_waitForCard_accepts b, ?_⟩
  rintro ⟨k, t0, xs, ys, rest, notTs, xsLength, ysLength, line, rfl⟩
  exact waitForCard_run_of_atr b k t0 xs ys rest notTs xsLength ysLength line

theorem waitForCard_atr_then (a : Atr) (notTs : a.t0 ≠ 0x3B) (more : List (Option UInt8))
    (line : b.incoming = a.bytes.map some ++ none :: more) :
    waitForCard.run b = (0, { b with incoming := none :: more }) := by
  obtain ⟨xs, ys, zs, bytes, xsLength, ysLength⟩ := a.bytes_split
  rw [waitForCard_run_of_atr b 0 a.t0 xs ys (zs.map some ++ none :: more) notTs
    (by rw [xsLength, a.interfaceCount_t0]) (by rw [ysLength, a.historicalCount_t0])
    (by simp [line, bytes]), dropWhile_isSome_map_some]

end Accepts

/-! ## The reader only reads -/

theorem readBytesEach_onlyReads (n : Nat) : OnlyReads (readBytesEach n) :=
  fun b => ⟨_, congrArg Prod.snd (readBytesEach_run_eq b n)⟩

theorem readInterfaceBytes_onlyReads (t0 : UInt8) (is : List Nat) :
    OnlyReads (readInterfaceBytes t0 is) :=
  fun b => readInterfaceBytes_eq b t0 is ▸ readBytesEach_onlyReads _ b

theorem drainBytes_onlyReads : ∀ s, OnlyReads (drainBytes s)
  | 0 => onlyReads_pure ()
  | s + 1 => (onlyReads_onIncoming _).bind fun _ => drainBytes_onlyReads s

theorem waitForCard_onlyReads : OnlyReads waitForCard := by
  refine (onlyReads_onIncoming _).bind fun bytes => ?_
  split
  · dsimp only
    split
    · exact onlyReads_uartGetBufferedDataLen.bind fun _ => onlyReads_pure _
    · refine (onlyReads_pure _).bind fun _ => (onlyReads_onIncoming _).bind fun t0 => ?_
      split
      · refine (readInterfaceBytes_onlyReads _ _).bind fun _ => ?_
        split
        · exact onlyReads_pure _
        · refine (onlyReads_pure _).bind fun _ => (readBytesEach_onlyReads _).bind fun _ => ?_
          split
          · exact onlyReads_pure _
          · exact (onlyReads_pure _).bind fun _ => onlyReads_uartGetBufferedDataLen.bind fun s =>
              (drainBytes_onlyReads s).bind fun _ => onlyReads_pure _
      · exact onlyReads_pure _
  · exact onlyReads_pure _

end LpacEspidf.Apdu
