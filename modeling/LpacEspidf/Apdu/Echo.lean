import LpacEspidf.Apdu.Line

/-!
# Clearing the echo

`_send_and_clear_echo` writes a block, reads the same number of bytes back from the loopback and
compares them with `strncmp`.  `strncmp` stops at the first NUL byte the two strings share, so the
comparison is exact only up to that byte: `sendAndClearEcho_accepts_after_shared_nul` is the gap,
`sendAndClearEcho_exact_echo` the case the driver relies on.
-/

set_option autoImplicit false

namespace LpacEspidf.Apdu

/-- `strncmp` of the C library on the bytes at two addresses; a list that ends reads as NUL. -/
def strncmp : List UInt8 → List UInt8 → Nat → Int
  | _, _, 0 => 0
  | s1, s2, n + 1 =>
    if s1.headD 0 ≠ s2.headD 0 then (s1.headD 0).toNat - (s2.headD 0).toNat
    else if s1.headD 0 = 0 then 0
    else strncmp s1.tail s2.tail n

theorem strncmp_eq_zero_of_take_eq (s1 s2 : List UInt8) (n : Nat) (same : s1.take n = s2.take n) :
    strncmp s1 s2 n = 0 := by
  induction n generalizing s1 s2 with
  | zero => rfl
  | succ n ih =>
      cases s1 <;> cases s2 <;> simp_all [strncmp]

theorem strncmp_nul_cons (s1 s2 : List UInt8) (n : Nat) :
    strncmp (0 :: s1) (0 :: s2) (n + 1) = 0 := by
  simp [strncmp]

theorem strncmp_eq_zero_iff (s1 s2 : List UInt8) (n : Nat) (read : s1.length = n)
    (fits : n ≤ s2.length) :
    strncmp s1 s2 n = 0 ↔
      s1.take (min n ((s2.takeWhile (· != 0)).length + 1)) =
        s2.take (min n ((s2.takeWhile (· != 0)).length + 1)) := by
  induction n generalizing s1 s2 with
  | zero => simp only [strncmp, Nat.zero_min, List.take_zero]
  | succ n ih =>
    obtain ⟨x, s1, rfl⟩ := List.exists_cons_of_length_eq_add_one read
    obtain ⟨y, s2, rfl⟩ : ∃ y t, s2 = y :: t :=
      List.exists_cons_of_ne_nil fun empty => by rw [empty, List.length_nil] at fits; omega
    rw [List.length_cons, Nat.add_right_cancel_iff] at read
    rw [List.length_cons, Nat.add_le_add_iff_right] at fits
    simp only [strncmp, List.headD_cons, List.tail_cons]
    by_cases same : x = y
    · subst same
      by_cases nul : x = 0
      · /- A shared NUL ends the comparison. -/
        subst nul
        rw [if_neg (not_not.mpr rfl), if_pos rfl, List.takeWhile_cons_of_neg (by decide), List.length_nil,
          Nat.add_min_add_right, Nat.min_zero, List.take_succ_cons, List.take_succ_cons]
        exact iff_of_true rfl rfl
      · rw [if_neg (not_not.mpr rfl), if_neg nul, ih s1 s2 read fits,
          List.takeWhile_cons_of_pos (p := (· != 0)) (bne_iff_ne.mpr nul), List.length_cons, Nat.add_min_add_right,
          List.take_succ_cons, List.take_succ_cons, List.cons.injEq]
        exact (and_iff_right rfl).symm
    · have apart : (x.toNat : Int) - y.toNat ≠ 0 := fun zero =>
        same (UInt8.eq_of_val_eq (Fin.ext (show x.toNat = y.toNat by omega)))
      rw [if_pos (show x ≠ y from same), Nat.add_min_add_right, List.take_succ_cons,
        List.take_succ_cons, List.cons.injEq]
      exact iff_of_false apart fun agree => same agree.1

/-- `_send_and_clear_echo(tx, tx_len)`: the echo is read into the 264-byte `rx_buf`, which
`_transmit_raw`, the only caller, never asks to overrun: it passes 5, then `tx_len - 5` of a
`uint8_t` length. -/
def sendAndClearEcho (tx : List UInt8) (txLen : Nat) : StateM Board Int := do
  if (← uartWriteBytes (tx.take txLen)) ≠ txLen then
    return -1
  let rxBuf ← uartReadBytes txLen
  if rxBuf.length ≠ txLen then
    let _ ← uartGetBufferedDataLen
    return -1
  if strncmp rxBuf tx txLen ≠ 0 then
    return -1
  return 0

theorem sendAndClearEcho_run (tx : List UInt8) (txLen : Nat) (b : Board) (fits : txLen ≤ tx.length) :
    (sendAndClearEcho tx txLen).run b =
      (if (takeBytes txLen (afterWrite b.incoming)).1.length = txLen ∧
          strncmp (takeBytes txLen (afterWrite b.incoming)).1 tx txLen = 0 then 0 else -1,
        { b with sent := b.sent ++ tx.take txLen,
                 incoming := (takeBytes txLen (afterWrite b.incoming)).2 }) := by
  simp only [sendAndClearEcho, StateT.run_bind, uartWriteBytes_run]
  simp only [List.length_take, min_eq_left fits, ne_eq, not_true_eq_false, if_false]
  by_cases got : (takeBytes txLen (afterWrite b.incoming)).1.length = txLen <;>
    by_cases cmp : strncmp (takeBytes txLen (afterWrite b.incoming)).1 tx txLen = 0 <;>
    simp [got, cmp]

theorem sendAndClearEcho_after_pauses (tx : List UInt8) (txLen : Nat) (b : Board) (k : Nat)
    (line : List (Option UInt8)) (pauses : b.incoming = List.replicate k none ++ line) :
    (sendAndClearEcho tx txLen).run b = (sendAndClearEcho tx txLen).run { b with incoming := line } := by
  simp only [sendAndClearEcho, StateT.run_bind, uartWriteBytes_run, pauses, afterWrite_pauses]

theorem sendAndClearEcho_sent (tx : List UInt8) (txLen : Nat) (b : Board) :
    ((sendAndClearEcho tx txLen).run b).2.sent = b.sent ++ tx.take txLen := by
  simp only [sendAndClearEcho, StateT.run_bind, uartWriteBytes_run, Id.bind_eq]
  split
  · rfl
  · simp only [StateT.run_pure, StateT.run_bind, uartReadBytes_run, Id.bind_eq, Id.pure_eq]
    split
    · rfl
    · split <;> rfl

theorem sendAndClearEcho_exact_echo (tx : List UInt8) (txLen : Nat) (fits : txLen ≤ tx.length)
    (positive : 0 < txLen) (b : Board) (rest : List (Option UInt8)) :
    (sendAndClearEcho tx txLen).run { b with incoming := (tx.take txLen).map some ++ rest } =
      (0, { b with sent := b.sent ++ tx.take txLen, incoming := rest }) := by
  have echo := takeBytes_map_some_append (tx.take txLen) rest
  rw [List.length_take, min_eq_left fits] at echo
  have written := afterWrite_map_some_append rest (tx.take txLen)
    (List.ne_nil_of_length_pos (by rw [List.length_take]; omega))
  rw [sendAndClearEcho_run tx txLen _ fits]
  simp only [written, echo, List.length_take, min_eq_left fits, true_and]
  rw [if_pos (strncmp_eq_zero_of_take_eq _ _ _ (by rw [List.take_take, min_self]))]

theorem sendAndClearEcho_accepts_after_shared_nul (txs echo : List UInt8) (fits : echo.length ≤ txs.length)
    (b : Board) (rest : List (Option UInt8)) :
    ((sendAndClearEcho (0 :: txs) (echo.length + 1)).run
      { b with incoming := (0 :: echo).map some ++ rest }).1 = 0 := by
  have read := takeBytes_map_some_append (0 :: echo) rest
  rw [List.length_cons] at read
  rw [sendAndClearEcho_run _ _ _ (by simpa using fits)]
  have written : afterWrite ((0 :: echo).map some ++ rest) = (0 :: echo).map some ++ rest := rfl
  simp only [written, read, List.length_cons, strncmp_nul_cons, and_self, if_true]

/-- For every block of at most `EUICC_INTERFACE_BUFSZ` bytes, the size of the buffer the echo is
read into, and every line, `_send_and_clear_echo` accepts exactly the echoes that come back in full
and agree with the block up to and including its first NUL byte: `strncmp` compares nothing after
it.  A header whose `CLA` is `0x00` is checked on its first byte only. -/
theorem sendAndClearEcho_accepts_iff (tx : List UInt8) (txLen : Nat)
    (fits : txLen ≤ min tx.length euiccInterfaceBufsz) (b : Board) :
    ((sendAndClearEcho tx txLen).run b).1 = 0 ↔
      (takeBytes txLen (afterWrite b.incoming)).1.length = txLen ∧
        (takeBytes txLen (afterWrite b.incoming)).1.take
            (min txLen ((tx.takeWhile (· != 0)).length + 1)) =
          tx.take (min txLen ((tx.takeWhile (· != 0)).length + 1)) := by
  have block := le_trans fits (min_le_left _ _)
  rw [sendAndClearEcho_run tx txLen b block]
  by_cases full : (takeBytes txLen (afterWrite b.incoming)).1.length = txLen
  · rw [← strncmp_eq_zero_iff _ tx txLen full block]
    split <;> simp_all
  · rw [if_neg fun accepted => full accepted.1]
    simp only [full, false_and]
    decide

/-- The header of `SELECT` by AID echoed as `00 FF FF FF FF`: only the first byte is compared. -/
theorem sendAndClearEcho_accepts_select_header :
    let tx : List UInt8 := [0x00, 0xA4, 0x04, 0x00, 0x10]
    let b : Board := ⟨[some 0x00, some 0xFF, some 0xFF, some 0xFF, some 0xFF], [], true, true, []⟩
    5 ≤ min tx.length euiccInterfaceBufsz ∧
      (((sendAndClearEcho tx 5).run b).1 = 0 ↔
        (takeBytes 5 (afterWrite b.incoming)).1.length = 5 ∧
          (takeBytes 5 (afterWrite b.incoming)).1.take (min 5 ((tx.takeWhile (· != 0)).length + 1)) =
            tx.take (min 5 ((tx.takeWhile (· != 0)).length + 1))) := by
  intro tx b
  exact ⟨by decide, sendAndClearEcho_accepts_iff tx 5 (by decide) b⟩

end LpacEspidf.Apdu
