import Mathlib.Data.List.Basic

/-!
# The expected response length

Lines 113-176 of `_transmit_raw` compute `to_recv`, the number of bytes the receive loop waits
for, from the command's length and its `P3`, `Lc` and `Le` fields, short or extended.  The
computation reads the command through a pointer, also past its end for some malformed lengths, so
it is written once over an arbitrary reader `rd` of the command memory: `toRecv` runs it on plain
memory.  `expectedLen` is the ISO 7816 case table as the specification states it, and
`toRecv_eq_expectedLen` says the two agree on every command of 5 to 255 bytes, whatever memory
follows the command.
-/

set_option autoImplicit false

namespace LpacEspidf.Apdu

section Reader
variable {m : Type → Type} [Monad m] (rd : Nat → m UInt8)

def ntohsAt (i : Nat) : m Nat := do
  let hi ← rd i
  let lo ← rd (i + 1)
  return hi.toNat * 256 + lo.toNat

/-- `to_recv` as `_transmit_raw` computes it.  Every byte is promoted to `int` as in C, and the
`uint16_t` `body_len` never wraps since `tx_len` is at most 255. -/
def toRecvWith (txLen : UInt8) : m Int := do
  let n : Int := txLen.toNat
  let p3 : Int := (← rd 4).toNat
  if p3 = 0 ∧ n > 5 then
    if n = 7 then
      let le : Int := (← ntohsAt rd 5)
      return if le = 0 then 65535 else le + 2
    else
      let bodyLen := n - 4
      let lc : Int := (← ntohsAt rd 5)
      if lc ≠ bodyLen - 3 ∧ lc ≠ bodyLen - 5 then
        return 65535
      else if n = 7 + lc then
        return 2
      else
        let le : Int := (← ntohsAt rd (txLen.toNat - 2))
        return if le = 0 then 65535 else le + 2
  else if n = 5 then
    return if p3 = 0 then 65535 else p3 + 2
  else
    let bodyLen := n - 4
    let lc := p3
    if lc ≠ bodyLen - 1 ∧ lc ≠ bodyLen - 2 then
      return 65535
    else if n = 5 + lc then
      return 2
    else
      let le : Int := (← rd (txLen.toNat - 1)).toNat
      if le = 0 then
        return 65535
      else if n = 5 + lc then
        return 2
      else
        let le : Int := (← rd (txLen.toNat - 1)).toNat
        return if le = 0 then 65535 else le + 2

end Reader

/-- `to_recv` for the command memory `tx`. -/
def toRecv (tx : Nat → UInt8) (txLen : UInt8) : Int :=
  Id.run (toRecvWith (fun i => (pure (tx i) : Id UInt8)) txLen)

def be16 (hi lo : UInt8) : Int := hi.toNat * 256 + lo.toNat

def leOrUndetermined (le : Int) : Int := if le = 0 then 65535 else le + 2

/-- The ISO 7816 case table for the number of response bytes, as the specification words it:
short `Le`, `Lc` and data, `Lc` and data and `Le`, then the same three in extended form; `65535`
stands for "undetermined". -/
def expectedLen (c : List UInt8) : Int :=
  let n : Int := c.length
  let p3 : Int := (c.getD 4 0).toNat
  let lc := be16 (c.getD 5 0) (c.getD 6 0)
  if n = 5 then leOrUndetermined p3
  else if p3 ≠ 0 ∧ n = 5 + p3 then 2
  else if p3 ≠ 0 ∧ n = 6 + p3 then leOrUndetermined (c.getD (c.length - 1) 0).toNat
  else if p3 = 0 ∧ n = 7 then leOrUndetermined lc
  else if p3 = 0 ∧ 8 ≤ n ∧ n = 7 + lc then 2
  else if p3 = 0 ∧ 8 ≤ n ∧ n = 9 + lc then
    leOrUndetermined (be16 (c.getD (c.length - 2) 0) (c.getD (c.length - 1) 0))
  else 65535

theorem toRecv_eq (tx : Nat → UInt8) (txLen : UInt8) :
    toRecv tx txLen =
      let n : Int := txLen.toNat
      let p3 : Int := (tx 4).toNat
      let lc := be16 (tx 5) (tx 6)
      let last : Int := (tx (txLen.toNat - 1)).toNat
      if p3 = 0 ∧ n > 5 then
        if n = 7 then (if lc = 0 then 65535 else lc + 2)
        else if lc ≠ n - 4 - 3 ∧ lc ≠ n - 4 - 5 then 65535
        else if n = 7 + lc then 2
        else
          let le := be16 (tx (txLen.toNat - 2)) (tx (txLen.toNat - 2 + 1))
          if le = 0 then 65535 else le + 2
      else if n = 5 then (if p3 = 0 then 65535 else p3 + 2)
      else if p3 ≠ n - 4 - 1 ∧ p3 ≠ n - 4 - 2 then 65535
      else if n = 5 + p3 then 2
      else if last = 0 then 65535
      else if n = 5 + p3 then 2
      else if last = 0 then 65535 else last + 2 := rfl

theorem toNat_toUInt8_of_lt (n : Nat) (small : n < 256) : n.toUInt8.toNat = n :=
  UInt8.toNat_ofNat_of_lt small

theorem be16_nonneg (hi lo : UInt8) : 0 ≤ be16 hi lo := by
  unfold be16
  omega

/-! ## The three branches, on the code's side and on the table's side -/

section Branches
variable (tx : Nat → UInt8) (txLen : UInt8)

theorem toRecv_header (five : txLen.toNat = 5) :
    toRecv tx txLen = leOrUndetermined (tx 4).toNat := by
  rw [toRecv_eq]
  dsimp only
  rw [if_neg (by omega), if_pos (by omega)]
  rfl

theorem toRecv_short (more : 5 < txLen.toNat) (p3 : (tx 4).toNat ≠ 0) :
    toRecv tx txLen =
      if (txLen.toNat : Int) = 5 + (tx 4).toNat then 2
      else if (txLen.toNat : Int) = 6 + (tx 4).toNat then
        leOrUndetermined (tx (txLen.toNat - 1)).toNat
      else 65535 := by
  rw [toRecv_eq]
  dsimp only
  rw [if_neg (by omega), if_neg (by omega)]
  by_cases data : (txLen.toNat : Int) = 5 + (tx 4).toNat
  · rw [if_neg (by omega), if_pos data, if_pos data]
  by_cases dataLe : (txLen.toNat : Int) = 6 + (tx 4).toNat
  · rw [if_neg (by omega), if_neg data, if_neg data, if_neg data, if_pos dataLe, leOrUndetermined]
    split_ifs <;> rfl
  · rw [if_pos (by omega), if_neg data, if_neg dataLe]

theorem toRecv_extended (more : 5 < txLen.toNat) (p3 : (tx 4).toNat = 0) :
    toRecv tx txLen =
      if txLen.toNat = 7 then leOrUndetermined (be16 (tx 5) (tx 6))
      else if (txLen.toNat : Int) = 7 + be16 (tx 5) (tx 6) then 2
      else if (txLen.toNat : Int) = 9 + be16 (tx 5) (tx 6) then
        leOrUndetermined (be16 (tx (txLen.toNat - 2)) (tx (txLen.toNat - 1)))
      else 65535 := by
  have prev : txLen.toNat - 2 + 1 = txLen.toNat - 1 := by omega
  have lc := be16_nonneg (tx 5) (tx 6)
  rw [toRecv_eq]
  dsimp only
  rw [if_pos (by omega), prev]
  by_cases le : txLen.toNat = 7
  · rw [if_pos (by omega), if_pos le]
    rfl
  rw [if_neg (by omega), if_neg le]
  by_cases data : (txLen.toNat : Int) = 7 + be16 (tx 5) (tx 6)
  · rw [if_neg (by omega), if_pos data, if_pos data]
  by_cases dataLe : (txLen.toNat : Int) = 9 + be16 (tx 5) (tx 6)
  · rw [if_neg (by omega), if_neg data, if_neg data, if_pos dataLe]
    rfl
  · rw [if_pos (by omega), if_neg data, if_neg dataLe]

end Branches

section Table
variable (c : List UInt8)

theorem expectedLen_header (five : c.length = 5) :
    expectedLen c = leOrUndetermined (c.getD 4 0).toNat := by
  unfold expectedLen
  dsimp only
  rw [if_pos (by omega)]

theorem expectedLen_short (more : 5 < c.length) (p3 : (c.getD 4 0).toNat ≠ 0) :
    expectedLen c =
      if (c.length : Int) = 5 + (c.getD 4 0).toNat then 2
      else if (c.length : Int) = 6 + (c.getD 4 0).toNat then
        leOrUndetermined (c.getD (c.length - 1) 0).toNat
      else 65535 := by
  have n5 : (c.length : Int) ≠ 5 := by omega
  have nz : ((c.getD 4 0).toNat : Int) ≠ 0 := by omega
  simp only [expectedLen, n5, nz, ne_eq, not_false_eq_true, true_and, if_false, false_and]

theorem expectedLen_extended (more : 5 < c.length) (p3 : (c.getD 4 0).toNat = 0) :
    expectedLen c =
      if c.length = 7 then leOrUndetermined (be16 (c.getD 5 0) (c.getD 6 0))
      else if (c.length : Int) = 7 + be16 (c.getD 5 0) (c.getD 6 0) then 2
      else if (c.length : Int) = 9 + be16 (c.getD 5 0) (c.getD 6 0) then
        leOrUndetermined (be16 (c.getD (c.length - 2) 0) (c.getD (c.length - 1) 0))
      else 65535 := by
  have lc := be16_nonneg (c.getD 5 0) (c.getD 6 0)
  unfold expectedLen
  dsimp only
  rw [if_neg (by omega), if_neg (by omega), if_neg (by omega)]
  by_cases le : c.length = 7
  · rw [if_pos (by omega), if_pos le]
  rw [if_neg (by omega), if_neg le]
  by_cases data : (c.length : Int) = 7 + be16 (c.getD 5 0) (c.getD 6 0)
  · rw [if_pos (by omega), if_pos data]
  rw [if_neg (by omega), if_neg data]
  by_cases dataLe : (c.length : Int) = 9 + be16 (c.getD 5 0) (c.getD 6 0)
  · rw [if_pos (by omega), if_pos dataLe]
  · rw [if_neg (by omega), if_neg dataLe]

end Table

theorem two_le_ite {c : Prop} [Decidable c] {a b : Int} (yes : 2 ≤ a) (no : 2 ≤ b) :
    2 ≤ if c then a else b := by
  split <;> assumption

theorem leOrUndetermined_ge_two (le : Int) (nonneg : 0 ≤ le) : 2 ≤ leOrUndetermined le :=
  two_le_ite (by decide) (by omega)

theorem expectedLen_ge_two (c : List UInt8) : 2 ≤ expectedLen c := by
  have short (b : UInt8) := leOrUndetermined_ge_two b.toNat (Int.ofNat_nonneg _)
  have extended (hi lo : UInt8) := leOrUndetermined_ge_two (be16 hi lo) (be16_nonneg hi lo)
  unfold expectedLen
  exact two_le_ite (short _) <| two_le_ite (Int.le_refl 2) <| two_le_ite (short _) <|
    two_le_ite (extended _ _) <| two_le_ite (Int.le_refl 2) <| two_le_ite (extended _ _) (by decide)

theorem toRecv_eq_expectedLen_range (tx : Nat → UInt8) (n : Nat) (lo : 5 ≤ n) (hi : n ≤ 255) :
    toRecv tx n.toUInt8 = expectedLen ((List.range n).map tx) := by
  have length : ((List.range n).map tx).length = n := by simp
  have agrees : ∀ i < n, tx i = ((List.range n).map tx).getD i 0 := fun i lt => by
    simp [List.getD_eq_getElem?_getD, lt]
  have len := toNat_toUInt8_of_lt n (by omega)
  have at4 := agrees 4 (by omega)
  have atLast := agrees (n - 1) (by omega)
  rcases Nat.lt_or_ge n 6 with five | more
  · rw [toRecv_header tx _ (by omega), expectedLen_header _ (by omega), at4]
  by_cases p3 : (((List.range n).map tx).getD 4 0).toNat = 0
  · rw [toRecv_extended tx _ (by omega) (by rw [at4]; exact p3),
      expectedLen_extended _ (by omega) p3, len, length]
    rcases Nat.lt_or_ge n 7 with six | seven
    · have lcCode := be16_nonneg (tx 5) (tx 6)
      have lcTable := be16_nonneg (((List.range n).map tx).getD 5 0) (((List.range n).map tx).getD 6 0)
      simp (disch := omega) only [if_neg]
    rw [agrees 5 (by omega), agrees 6 (by omega), agrees (n - 2) (by omega), atLast]
  · rw [toRecv_short tx _ (by omega) (by rw [at4]; exact p3),
      expectedLen_short _ (by omega) p3, len, length, at4, atLast]

theorem range_map_eq (c : List UInt8) (tx : Nat → UInt8) (agrees : ∀ i < c.length, tx i = c.getD i 0) :
    (List.range c.length).map tx = c :=
  List.ext_getElem (by simp) fun i inside _ => by
    rw [List.length_map, List.length_range] at inside
    simp [agrees i inside, List.getD_eq_getElem?_getD, inside]

/-- The computation of `_transmit_raw` follows the case table, on every command of 5 to 255 bytes
and whatever memory follows it. -/
theorem toRecv_eq_expectedLen (c : List UInt8) (lo : 5 ≤ c.length) (hi : c.length ≤ 255)
    (tx : Nat → UInt8) (agrees : ∀ i < c.length, tx i = c.getD i 0) :
    toRecv tx c.length.toUInt8 = expectedLen c := by
  rw [toRecv_eq_expectedLen_range tx c.length lo hi, range_map_eq c tx agrees]

/-- `SELECT` of the master file, `00 A4 00 00 02 3F 00`: header, `Lc` and data, so only the status
word is expected. -/
theorem toRecv_select_mf :
    let c : List UInt8 := [0x00, 0xA4, 0x00, 0x00, 0x02, 0x3F, 0x00]
    toRecv (fun i => c.getD i 0) c.length.toUInt8 = expectedLen c ∧ expectedLen c = 2 :=
  ⟨toRecv_eq_expectedLen _ (by decide) (by decide) _ (fun _ _ => rfl), by decide⟩

/-! ## What the computation reads

`toRecvWith` run over a reader that logs each index it is asked for: `toRecvReads` lists the
indices of `tx` the source reads while computing `to_recv`, a 16-bit `ntohs` load counting as its
two bytes.  `ReadsOnly P x` says every index `x` logs satisfies `P`; it is proved for
`toRecvWith` step by step, one lemma per read, `ntohs` load and `if`. -/

def traceRead (tx : Nat → UInt8) (i : Nat) : StateM (List Nat) UInt8 :=
  fun reads => (tx i, reads ++ [i])

@[simp]
theorem traceRead_run (tx : Nat → UInt8) (i : Nat) (reads : List Nat) :
    (traceRead tx i).run reads = (tx i, reads ++ [i]) := rfl

def toRecvReads (tx : Nat → UInt8) (txLen : UInt8) : List Nat :=
  ((toRecvWith (traceRead tx) txLen).run []).2

def ReadsOnly (P : Nat → Prop) {α : Type} (x : StateM (List Nat) α) : Prop :=
  ∀ log, ∃ new, (x.run log).2 = log ++ new ∧ ∀ i ∈ new, P i

namespace ReadsOnly

variable {P : Nat → Prop} {β : Type}

theorem of_pure (a : β) : ReadsOnly P (pure a) := fun log =>
  ⟨[], (List.append_nil log).symm, fun _ member => absurd member (List.not_mem_nil _)⟩

theorem read_bind (tx : Nat → UInt8) (i : Nat) {f : UInt8 → StateM (List Nat) β} (here : P i)
    (rest : ReadsOnly P (f (tx i))) : ReadsOnly P (traceRead tx i >>= f) := fun log => by
  obtain ⟨new, after, within⟩ := rest (log ++ [i])
  refine ⟨i :: new, by rw [List.append_cons]; exact after, ?_⟩
  rintro j (_ | ⟨_, later⟩)
  · exact here
  · exact within j later

theorem ntohs_bind (tx : Nat → UInt8) (i : Nat) {f : Nat → StateM (List Nat) β} (here : P i)
    (next : P (i + 1)) (rest : ReadsOnly P (f ((tx i).toNat * 256 + (tx (i + 1)).toNat))) :
    ReadsOnly P (ntohsAt (traceRead tx) i >>= f) := by
  simp only [ntohsAt, bind_assoc, pure_bind]
  exact read_bind tx i here (read_bind tx (i + 1) next rest)

theorem of_ite {c : Prop} [Decidable c] {a b : StateM (List Nat) β} (yes : c → ReadsOnly P a)
    (no : ¬c → ReadsOnly P b) : ReadsOnly P (if c then a else b) := by
  split
  · exact yes ‹_›
  · exact no ‹_›

end ReadsOnly

/-- The indices the computation may read: `tx[4]`, then `tx[5]` and `tx[6]` when `P3 = 0` and there
is a body, then the last one or two bytes. -/
def Allowed (tx : Nat → UInt8) (txLen : UInt8) (i : Nat) : Prop :=
  i = 4 ∨ ((tx 4).toNat = 0 ∧ 5 < txLen.toNat ∧ (i = 5 ∨ i = 6)) ∨
    (5 < txLen.toNat ∧ (i = txLen.toNat - 2 ∨ i = txLen.toNat - 1))

theorem toRecvWith_reads (tx : Nat → UInt8) (txLen : UInt8) (header : 5 ≤ txLen.toNat) :
    ReadsOnly (Allowed tx txLen) (toRecvWith (traceRead tx) txLen) := by
  unfold toRecvWith
  refine ReadsOnly.read_bind tx 4 (.inl rfl) (ReadsOnly.of_ite (fun extended => ?_) fun short => ?_)
  · have p3 : (tx 4).toNat = 0 := by omega
    have lc : Allowed tx txLen 5 ∧ Allowed tx txLen (5 + 1) :=
      ⟨.inr (.inl ⟨p3, by omega, .inl rfl⟩), .inr (.inl ⟨p3, by omega, .inr rfl⟩)⟩
    refine ReadsOnly.of_ite (fun _ => ReadsOnly.ntohs_bind tx 5 lc.1 lc.2 (.of_pure _)) fun _ => ?_
    refine ReadsOnly.ntohs_bind tx 5 lc.1 lc.2 (.of_ite (fun _ => .of_pure _) fun _ =>
      .of_ite (fun _ => .of_pure _) fun _ => ?_)
    exact ReadsOnly.ntohs_bind tx _ (.inr (.inr ⟨by omega, .inl rfl⟩))
      (.inr (.inr ⟨by omega, .inr (by omega)⟩)) (.of_pure _)
  · refine ReadsOnly.of_ite (fun _ => .of_pure _) fun notHeader => ?_
    have last : Allowed tx txLen (txLen.toNat - 1) := .inr (.inr ⟨by omega, .inr rfl⟩)
    refine .of_ite (fun _ => .of_pure _) fun _ => .of_ite (fun _ => .of_pure _) fun _ =>
      ReadsOnly.read_bind tx _ last ?_
    exact .of_ite (fun _ => .of_pure _) fun _ => .of_ite (fun _ => .of_pure _) fun _ =>
      ReadsOnly.read_bind tx _ last (.of_pure _)

theorem toRecvReads_six (tx : Nat → UInt8) (p3 : tx 4 = 0) : toRecvReads tx 6 = [4, 5, 6] := by
  have six : UInt8.toNat 6 = 6 := rfl
  simp only [toRecvReads, toRecvWith, ntohsAt, StateT.run_bind, Id.bind_eq, traceRead_run, p3]
  rw [if_pos (by decide), if_neg (by decide)]
  simp only [StateT.run_bind, Id.bind_eq, traceRead_run, StateT.run_pure, Id.pure_eq]
  rw [if_pos (by omega)]
  rfl

/-- `00 B0 00 00 00 01`, six bytes with `P3 = 0`: whatever byte follows it in memory, computing
`to_recv` reads it. -/
theorem toRecvReads_reads_past_command :
    ∀ next : UInt8, toRecvReads
      (fun i => ([0x00, 0xB0, 0x00, 0x00, 0x00, 0x01, next] : List UInt8).getD i 0) 6 = [4, 5, 6] :=
  fun _ => toRecvReads_six _ rfl

/-- On a command of at least a header, the computation reads only inside it, but for a 6-byte
command with `P3 = 0`. -/
theorem toRecvReads_within (tx : Nat → UInt8) (txLen : UInt8) (header : 5 ≤ txLen.toNat) :
    (∀ i ∈ toRecvReads tx txLen, i < txLen.toNat) ↔ ¬(txLen.toNat = 6 ∧ tx 4 = 0) := by
  constructor
  · rintro within ⟨six, p3⟩
    obtain rfl : txLen = 6 := UInt8.eq_of_val_eq (Fin.ext six)
    exact absurd (within 6 (by rw [toRecvReads_six tx p3]; decide)) (by decide)
  · intro notSix i read
    obtain ⟨new, reads, allowed⟩ := toRecvWith_reads tx txLen header []
    rw [toRecvReads, reads, List.nil_append] at read
    rcases allowed i read with rfl | ⟨p3, more, rfl | rfl⟩ | ⟨more, rfl | rfl⟩
    · omega
    · omega
    · have : txLen.toNat ≠ 6 := fun six => notSix ⟨six, UInt8.eq_of_val_eq (Fin.ext p3)⟩
      omega
    · omega
    · omega

/-- `00 B0 00 00 00 00 10`: `READ BINARY` with the extended `Le = 16`, read inside. -/
theorem toRecvReads_extended_le :
    5 ≤ (7 : UInt8).toNat ∧
      ((∀ i ∈ toRecvReads (fun i => ([0x00, 0xB0, 0x00, 0x00, 0x00, 0x00, 0x10] : List UInt8).getD i 0)
          7, i < (7 : UInt8).toNat) ↔
        ¬((7 : UInt8).toNat = 6 ∧ ([0x00, 0xB0, 0x00, 0x00, 0x00, 0x00, 0x10] : List UInt8).getD 4 0 = 0)) :=
  ⟨by decide, toRecvReads_within _ 7 (by decide)⟩

end LpacEspidf.Apdu
