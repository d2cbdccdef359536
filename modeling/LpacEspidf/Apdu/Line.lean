import Mathlib.Data.List.Basic

/-!
# The serial line of the ESP-IDF APDU driver

`driver/apdu/espidf.c` talks to the eUICC through UART 1 and two GPIO lines, `SIM_ON_PIN` (card
power) and `RESET_PIN`.  The line is half duplex with a loopback: every byte the UART sends comes
back on its own receiver, ahead of the card's answer.

`Board` is what the driver's calls see of that hardware.  `incoming` is everything the receiver
will still get, in order, with `none` for a silence long enough to end the pending read; the echo
of a write is part of it, at the place where the line delivers it.  The driver is deterministic, so
ranging over every `incoming` ranges over every card, every echo and every timing.  Timeouts and
`vTaskDelay` only decide where the silences fall and are not modelled beyond `none`.  A silence
ends a read only while one is pending: when the driver writes, the silences before the write have
passed, and what comes next, the echo first, arrives after it.  A rising `RESET_PIN` while the card
is powered is a cold reset: the bytes already received stay in the receive buffer, and what the
card sends from then on is the next entry of `answersToReset`.
-/

set_option autoImplicit false

namespace LpacEspidf.Apdu

/-- `EUICC_INTERFACE_BUFSZ`: the capacity of every response buffer the driver passes in. -/
def euiccInterfaceBufsz : Nat := 264

/-- The two control lines, `SIM_ON_PIN` (GPIO 13) and `RESET_PIN` (GPIO 10). -/
inductive Pin where
  | simOn
  | reset
deriving DecidableEq, Repr

structure Board where
  incoming : List (Option UInt8)
  sent : List UInt8
  simOn : Bool
  reset : Bool
  answersToReset : List (List (Option UInt8))
deriving Repr

def onIncoming {α : Type} (reader : List (Option UInt8) → α × List (Option UInt8)) :
    StateM Board α :=
  fun b => ((reader b.incoming).1, { b with incoming := (reader b.incoming).2 })

/-- What `uart_read_bytes(UART_NUM_1, buf, n, ticks)` gets: up to `n` bytes, fewer when a
silence ends the wait. -/
def takeBytes : Nat → List (Option UInt8) → List UInt8 × List (Option UInt8)
  | 0, rest => ([], rest)
  | _ + 1, [] => ([], [])
  | _ + 1, none :: rest => ([], rest)
  | n + 1, some x :: rest => (x :: (takeBytes n rest).1, (takeBytes n rest).2)

def uartReadBytes (n : Nat) : StateM Board (List UInt8) :=
  onIncoming (takeBytes n)

/-- The line once the driver has written: the silences pending before the write are over. -/
def afterWrite (line : List (Option UInt8)) : List (Option UInt8) :=
  line.dropWhile Option.isNone

def uartWriteBytes (bytes : List UInt8) : StateM Board Nat :=
  fun b => (bytes.length, { b with sent := b.sent ++ bytes, incoming := afterWrite b.incoming })

/-- `uart_get_buffered_data_len`: the bytes that have arrived, those before the next silence. -/
def uartGetBufferedDataLen : StateM Board Nat :=
  fun b => ((b.incoming.takeWhile Option.isSome).length, b)

def uartFlush : StateM Board Unit :=
  fun b => ((), { b with incoming := b.incoming.dropWhile Option.isSome })

def gpioSetLevel (pin : Pin) (level : Bool) : StateM Board Unit :=
  fun b => ((), match pin with
    | .simOn => { b with simOn := level }
    | .reset =>
      if level && b.simOn && !b.reset then
        { b with reset := true,
                 incoming := b.incoming.takeWhile Option.isSome ++ b.answersToReset.headD [],
                 answersToReset := b.answersToReset.tail }
      else { b with reset := level })

section Run
variable {α : Type} (b : Board)

@[simp] theorem onIncoming_run (reader : List (Option UInt8) → α × List (Option UInt8)) :
    (onIncoming reader).run b =
      ((reader b.incoming).1, { b with incoming := (reader b.incoming).2 }) := rfl

@[simp] theorem uartReadBytes_run (n : Nat) :
    (uartReadBytes n).run b =
      ((takeBytes n b.incoming).1, { b with incoming := (takeBytes n b.incoming).2 }) := rfl

@[simp] theorem uartWriteBytes_run (bytes : List UInt8) :
    (uartWriteBytes bytes).run b =
      (bytes.length, { b with sent := b.sent ++ bytes, incoming := afterWrite b.incoming }) := rfl

@[simp] theorem uartGetBufferedDataLen_run :
    uartGetBufferedDataLen.run b = ((b.incoming.takeWhile Option.isSome).length, b) := rfl

end Run

section AfterWrite
variable (rest : List (Option UInt8))

@[simp] theorem afterWrite_some (x : UInt8) : afterWrite (some x :: rest) = some x :: rest := rfl

@[simp] theorem afterWrite_none : afterWrite (none :: rest) = afterWrite rest := rfl

theorem afterWrite_pauses (k : Nat) : afterWrite (List.replicate k none ++ rest) = afterWrite rest := by
  induction k with
  | zero => rfl
  | succ k ih => exact ih

theorem afterWrite_map_some_append (xs : List UInt8) (nonempty : xs ≠ []) :
    afterWrite (xs.map some ++ rest) = xs.map some ++ rest := by
  obtain ⟨x, xs, rfl⟩ := List.exists_cons_of_ne_nil nonempty
  rfl

end AfterWrite

section Reads
variable {α β : Type}

def OnlyReads (m : StateM Board α) : Prop :=
  ∀ b, ∃ l, (m.run b).2 = { b with incoming := l }

theorem OnlyReads.bind {m : StateM Board α} {f : α → StateM Board β} (first : OnlyReads m)
    (rest : ∀ a, OnlyReads (f a)) : OnlyReads (m >>= f) := fun b => by
  obtain ⟨l, read⟩ := first b
  obtain ⟨l', read'⟩ := rest (m.run b).1 (m.run b).2
  exact ⟨l', by rw [StateT.run_bind, Id.bind_eq, read', read]⟩

theorem onlyReads_pure (a : α) : OnlyReads (pure a : StateM Board α) := fun b => ⟨b.incoming, rfl⟩

theorem onlyReads_onIncoming (reader : List (Option UInt8) → α × List (Option UInt8)) :
    OnlyReads (onIncoming reader) := fun _ => ⟨_, rfl⟩

theorem onlyReads_uartGetBufferedDataLen : OnlyReads uartGetBufferedDataLen :=
  fun b => ⟨b.incoming, rfl⟩

end Reads

section TakeBytes

@[simp] theorem takeBytes_zero (rest : List (Option UInt8)) : takeBytes 0 rest = ([], rest) := rfl

@[simp] theorem takeBytes_nil (n : Nat) : takeBytes n [] = ([], []) := by
  cases n <;> rfl

@[simp] theorem takeBytes_none (n : Nat) (rest : List (Option UInt8)) :
    takeBytes (n + 1) (none :: rest) = ([], rest) := rfl

@[simp] theorem takeBytes_some (n : Nat) (x : UInt8) (rest : List (Option UInt8)) :
    takeBytes (n + 1) (some x :: rest) = (x :: (takeBytes n rest).1, (takeBytes n rest).2) := rfl

theorem takeBytes_map_some_append (xs : List UInt8) (rest : List (Option UInt8)) :
    takeBytes xs.length (xs.map some ++ rest) = (xs, rest) := by
  induction xs with
  | nil => rfl
  | cons x xs ih => simp [ih]

theorem takeBytes_length_le (n : Nat) (s : List (Option UInt8)) : (takeBytes n s).1.length ≤ n := by
  induction n generalizing s with
  | zero => simp
  | succ n ih =>
      match s with
      | [] => simp
      | none :: rest => simp
      | some x :: rest => simpa using ih rest

end TakeBytes

end LpacEspidf.Apdu
