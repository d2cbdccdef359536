import LpacEspidf.Http.Driver

/-!
# The header loop of `transmit`

For each string of `h` the loop finds the first `:` with `strchr`, copies the text before it as
the key and passes `delimiter + 2` as the value, on the assumption that a colon and a space
separate the two.  `headerField` is that computation; `specHeaderField` reads the string as the
interface describes a header: the text after the `:` with at most one leading space removed.

The two agree on a string exactly when a space follows its first colon (`headerField_eq_spec_iff`),
so on every array of `Key: Value` strings the loop registers the headers the interface describes
(`request_headers_of_spaced`).  Otherwise the character after the colon is dropped, and a string
ending in its colon has its value start past its terminating NUL
(`request_headers_skip_value_start`).
-/

set_option autoImplicit false

namespace LpacEspidf.Http

def dropLeadingSpace (value : List UInt8) : List UInt8 :=
  if value.head? = some 0x20 then value.tail else value

/-- The header a string of `h` stands for: the text before its first `:` and the text after it
with at most one leading space removed; a string without `:` stands for no header. -/
def specHeaderField (line : List UInt8) : Option (List UInt8 × List UInt8) :=
  (line.indexOf? 0x3A).map fun k => (line.take k, dropLeadingSpace (line.drop (k + 1)))

theorem dropLeadingSpace_cons (c : UInt8) (rest : List UInt8) :
    dropLeadingSpace (c :: rest) = rest ↔ c = 0x20 := by
  unfold dropLeadingSpace
  by_cases space : c = 0x20
  · simp only [space, List.head?_cons, List.tail_cons, if_true]
  · simp only [List.head?_cons, Option.some.injEq, space, if_false, List.cons_ne_self]

theorem headerField_eq_spec_iff (line : List UInt8) :
    headerField line = (specHeaderField line).map (fun kv => (kv.1, some kv.2)) ↔
      ∀ k, line.indexOf? 0x3A = some k → (line.drop (k + 1)).head? = some 0x20 := by
  unfold headerField specHeaderField
  rcases found : line.indexOf? 0x3A with _ | k
  · simp only [Option.map_none', reduceCtorEq, false_implies, implies_true]
  simp only [Option.map_some', Option.some.injEq, Prod.mk.injEq, true_and, forall_eq']
  by_cases inside : k + 2 ≤ line.length
  · rw [if_pos inside, List.drop_eq_getElem_cons (show k + 1 < line.length from inside),
      List.head?_cons, Option.some.injEq, Option.some.injEq, eq_comm, dropLeadingSpace_cons]
  · rw [if_neg inside, List.drop_eq_nil_of_le (by omega)]
    simp only [List.head?_nil, reduceCtorEq]

/-- When every string has a space after its first `:`, the headers are the spec's. -/
theorem request_headers_of_spaced (url : List UInt8) (tx : Option (List UInt8)) (txLen : UInt32)
    (h : List (List UInt8)) (s : Driver)
    (spaced : ∀ line ∈ h, ∀ k, line.indexOf? 0x3A = some k →
      (line.drop (k + 1)).head? = some 0x20) :
    (request url tx txLen h s).headers =
      (h.filterMap specHeaderField).map fun kv => (kv.1, some kv.2) := by
  rw [List.map_filterMap]
  exact List.filterMap_congr fun line member =>
    (headerField_eq_spec_iff line).mpr (spaced line member)

/-- `A: *` registered as the spec reads it. -/
theorem request_headers_accept :
    let h : List (List UInt8) := [[0x41, 0x3A, 0x20, 0x2A]]
    (request [] none 0 h (Driver.boot .empty)).headers =
      (h.filterMap specHeaderField).map fun kv => (kv.1, some kv.2) := by
  intro h
  refine request_headers_of_spaced [] none 0 h (Driver.boot .empty) fun line member k found => ?_
  rw [List.mem_singleton.mp member] at found ⊢
  cases found
  rfl

/-- `A:b` is registered with the empty value instead of `b`, and `A:` with a value past the
string's terminator. -/
theorem request_headers_skip_value_start :
    (request [] none 0 [[0x41, 0x3A, 0x62], [0x41, 0x3A]] (Driver.boot .empty)).headers =
        [([0x41], some []), ([0x41], none)] ∧
      [[0x41, 0x3A, 0x62], [0x41, 0x3A]].filterMap specHeaderField =
        [([0x41], [0x62]), ([0x41], [])] :=
  ⟨rfl, rfl⟩

end LpacEspidf.Http
