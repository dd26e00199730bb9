import PathRouting.Regex.CharSet

/-! # Sets of characters as bytes

The UTF-8 forms of the characters of a set are the texts of some sequences of byte ranges, in
ascending order.
-/

namespace PathRouting

namespace Regex

abbrev ByteRange := Nat × Nat

namespace ByteRange

def continuation : ByteRange := (0x80, 0xbf)

/-- The sequences for the numbers from `a` to `b`, which are written with `n` continuation bytes
after a first byte that counts from `first`. -/
def sequences (first : Nat) : Nat → Nat → Nat → List (List ByteRange)
  | 0, a, b => [[(first + a, first + b)]]
  | n + 1, a, b =>
    let block := 64 ^ (n + 1)
    let (i, j) := (a / block, b / block)
    let head (i j : Nat) : ByteRange := (first + i, first + j)
    let tails (c d : Nat) := sequences 0x80 n c d
    if i = j then (tails (a % block) (b % block)).map (head i i :: ·)
    else
      let (before, k) :=
        if a % block = 0 then ([], i)
        else ((tails (a % block) (block - 1)).map (head i i :: ·), i + 1)
      let (after, l) :=
        if b % block = block - 1 then ([], j)
        else ((tails 0 (b % block)).map (head j j :: ·), j - 1)
      let whole := if k ≤ l then [head k l :: List.replicate (n + 1) continuation] else []
      before ++ whole ++ after

/-- The codes with a UTF-8 form of one length, by their ends, with the first byte of the form that
would stand for zero and the number of continuation bytes. -/
def planes : List (Nat × Nat × Nat × Nat) :=
  [(0, 0x7f, 0, 0), (0x80, 0x7ff, 0xc0, 1), (0x800, 0xd7ff, 0xe0, 2), (0xe000, 0xffff, 0xe0, 2),
   (0x10000, 0x10ffff, 0xf0, 3)]

def ofCodes (r : Nat × Nat) : List (List ByteRange) :=
  planes.flatMap fun (lo, hi, first, n) =>
    if max lo r.1 ≤ min hi r.2 then sequences first n (max lo r.1) (min hi r.2) else []

end ByteRange

def CharSet.sequences (s : CharSet) : List (List ByteRange) := s.ranges.flatMap ByteRange.ofCodes

end Regex

end PathRouting
