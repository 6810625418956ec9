import Folio.Password.Blake2b

/-!
# Argon2 memory blocks

A block is 128 words in eight rows of sixteen. `Block.combine` is the compression of two blocks
that fills the memory.
-/

namespace Folio.Password.Argon2

/-- Sixteen words of a block. -/
structure Row where
  w0 : UInt64
  w1 : UInt64
  w2 : UInt64
  w3 : UInt64
  w4 : UInt64
  w5 : UInt64
  w6 : UInt64
  w7 : UInt64
  w8 : UInt64
  w9 : UInt64
  w10 : UInt64
  w11 : UInt64
  w12 : UInt64
  w13 : UInt64
  w14 : UInt64
  w15 : UInt64
  deriving DecidableEq

namespace Row

/-- The row of zeros. -/
def zero : Row := ⟨0, 0, 0, 0, 0, 0, 0, 0, 0, 0, 0, 0, 0, 0, 0, 0⟩

/-- Word-wise exclusive or. -/
def xor (r s : Row) : Row :=
  ⟨r.w0 ^^^ s.w0, r.w1 ^^^ s.w1, r.w2 ^^^ s.w2, r.w3 ^^^ s.w3,
   r.w4 ^^^ s.w4, r.w5 ^^^ s.w5, r.w6 ^^^ s.w6, r.w7 ^^^ s.w7,
   r.w8 ^^^ s.w8, r.w9 ^^^ s.w9, r.w10 ^^^ s.w10, r.w11 ^^^ s.w11,
   r.w12 ^^^ s.w12, r.w13 ^^^ s.w13, r.w14 ^^^ s.w14, r.w15 ^^^ s.w15⟩

/-- The words of a row, in order. -/
def toList (r : Row) : List UInt64 :=
  [r.w0, r.w1, r.w2, r.w3, r.w4, r.w5, r.w6, r.w7,
   r.w8, r.w9, r.w10, r.w11, r.w12, r.w13, r.w14, r.w15]

/-- The row whose words `word` gives. -/
def ofFn (word : Nat → UInt64) : Row :=
  ⟨word 0, word 1, word 2, word 3, word 4, word 5, word 6, word 7,
   word 8, word 9, word 10, word 11, word 12, word 13, word 14, word 15⟩

/-- The word at a position below 16. -/
def get (r : Row) : Nat → UInt64
  | 0 => r.w0 | 1 => r.w1 | 2 => r.w2 | 3 => r.w3
  | 4 => r.w4 | 5 => r.w5 | 6 => r.w6 | 7 => r.w7
  | 8 => r.w8 | 9 => r.w9 | 10 => r.w10 | 11 => r.w11
  | 12 => r.w12 | 13 => r.w13 | 14 => r.w14 | _ => r.w15

/-- Adds two words and twice the product of their lower halves. -/
@[inline] def blend (x y : UInt64) : UInt64 :=
  x + y + 2 * ((x &&& 0xffffffff) * (y &&& 0xffffffff))

/-- Mixes four words and hands them on. -/
@[inline] def mix {α : Type} (a b c d : UInt64)
    (next : UInt64 → UInt64 → UInt64 → UInt64 → α) : α :=
  let a := blend a b
  let d := rotateRight (d ^^^ a) 32
  let c := blend c d
  let b := rotateRight (b ^^^ c) 24
  let a := blend a b
  let d := rotateRight (d ^^^ a) 16
  let c := blend c d
  let b := rotateRight (b ^^^ c) 63
  next a b c d

/-- One round over sixteen words: the columns, then the diagonals. -/
def permute (r : Row) : Row :=
  mix r.w0 r.w4 r.w8 r.w12 fun v0 v4 v8 v12 =>
  mix r.w1 r.w5 r.w9 r.w13 fun v1 v5 v9 v13 =>
  mix r.w2 r.w6 r.w10 r.w14 fun v2 v6 v10 v14 =>
  mix r.w3 r.w7 r.w11 r.w15 fun v3 v7 v11 v15 =>
  mix v0 v5 v10 v15 fun v0 v5 v10 v15 =>
  mix v1 v6 v11 v12 fun v1 v6 v11 v12 =>
  mix v2 v7 v8 v13 fun v2 v7 v8 v13 =>
  mix v3 v4 v9 v14 fun v3 v4 v9 v14 =>
  ⟨v0, v1, v2, v3, v4, v5, v6, v7, v8, v9, v10, v11, v12, v13, v14, v15⟩

end Row

/-- A kibibyte of memory. -/
structure Block where
  r0 : Row
  r1 : Row
  r2 : Row
  r3 : Row
  r4 : Row
  r5 : Row
  r6 : Row
  r7 : Row
  deriving DecidableEq

namespace Block

/-- The block of zeros. -/
def zero : Block :=
  ⟨.zero, .zero, .zero, .zero, .zero, .zero, .zero, .zero⟩

/-- Word-wise exclusive or. -/
def xor (x y : Block) : Block :=
  ⟨x.r0.xor y.r0, x.r1.xor y.r1, x.r2.xor y.r2, x.r3.xor y.r3,
   x.r4.xor y.r4, x.r5.xor y.r5, x.r6.xor y.r6, x.r7.xor y.r7⟩

/-- Every row permuted. -/
def permuteRows (b : Block) : Block :=
  ⟨b.r0.permute, b.r1.permute, b.r2.permute, b.r3.permute,
   b.r4.permute, b.r5.permute, b.r6.permute, b.r7.permute⟩

/-- Pairs of words exchanged so that the two-word columns become rows. -/
def transpose (b : Block) : Block :=
  let ⟨a, b, c, d, e, f, g, h⟩ := b
  ⟨⟨a.w0, a.w1, b.w0, b.w1, c.w0, c.w1, d.w0, d.w1, e.w0, e.w1, f.w0, f.w1, g.w0, g.w1, h.w0, h.w1⟩,
   ⟨a.w2, a.w3, b.w2, b.w3, c.w2, c.w3, d.w2, d.w3, e.w2, e.w3, f.w2, f.w3, g.w2, g.w3, h.w2, h.w3⟩,
   ⟨a.w4, a.w5, b.w4, b.w5, c.w4, c.w5, d.w4, d.w5, e.w4, e.w5, f.w4, f.w5, g.w4, g.w5, h.w4, h.w5⟩,
   ⟨a.w6, a.w7, b.w6, b.w7, c.w6, c.w7, d.w6, d.w7, e.w6, e.w7, f.w6, f.w7, g.w6, g.w7, h.w6, h.w7⟩,
   ⟨a.w8, a.w9, b.w8, b.w9, c.w8, c.w9, d.w8, d.w9, e.w8, e.w9, f.w8, f.w9, g.w8, g.w9, h.w8, h.w9⟩,
   ⟨a.w10, a.w11, b.w10, b.w11, c.w10, c.w11, d.w10, d.w11,
    e.w10, e.w11, f.w10, f.w11, g.w10, g.w11, h.w10, h.w11⟩,
   ⟨a.w12, a.w13, b.w12, b.w13, c.w12, c.w13, d.w12, d.w13,
    e.w12, e.w13, f.w12, f.w13, g.w12, g.w13, h.w12, h.w13⟩,
   ⟨a.w14, a.w15, b.w14, b.w15, c.w14, c.w15, d.w14, d.w15,
    e.w14, e.w15, f.w14, f.w15, g.w14, g.w15, h.w14, h.w15⟩⟩

/-- Compresses two blocks into one. -/
def combine (x y : Block) : Block :=
  let both := x.xor y
  both.xor both.permuteRows.transpose.permuteRows.transpose

/-- The row at a position below 8. -/
def row (b : Block) : Nat → Row
  | 0 => b.r0 | 1 => b.r1 | 2 => b.r2 | 3 => b.r3
  | 4 => b.r4 | 5 => b.r5 | 6 => b.r6 | _ => b.r7

/-- The word at a position below 128. -/
def word (b : Block) (i : Nat) : UInt64 :=
  (b.row (i / 16)).get (i % 16)

/-- The block whose words `word` gives. -/
def ofFn (word : Nat → UInt64) : Block :=
  let row (i : Nat) := Row.ofFn fun j => word (16 * i + j)
  ⟨row 0, row 1, row 2, row 3, row 4, row 5, row 6, row 7⟩

/-- The block with the given bytes, lowest byte of each word first. -/
def ofBytes (bytes : List UInt8) : Block :=
  let bytes := bytes.toArray
  ofFn fun i => (ofLittleEndian ((List.range 8).map fun j => bytes.getD (8 * i + j) 0)).toUInt64

/-- The 1024 bytes of a block. -/
def toBytes (b : Block) : List UInt8 :=
  [b.r0, b.r1, b.r2, b.r3, b.r4, b.r5, b.r6, b.r7].flatMap fun row =>
    row.toList.flatMap fun word => littleEndian 8 word.toNat

end Block

end Folio.Password.Argon2
