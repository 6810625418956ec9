/-!
# BLAKE2b

`Blake2b.digest` hashes bytes to at most 64 bytes without a key; `Blake2b.stretch` chains digests
to reach any length.
-/

namespace Folio.Password

/-- The `count` low-order bytes of a number, lowest first. -/
def littleEndian : Nat → Nat → List UInt8
  | 0, _ => []
  | count + 1, value => value.toUInt8 :: littleEndian count (value / 256)

/-- The number whose bytes, lowest first, are given. -/
def ofLittleEndian (bytes : List UInt8) : Nat :=
  bytes.foldr (fun byte rest => byte.toNat + 256 * rest) 0

/-- Rotates a word to the right; `count` is at least 1 and at most 63. -/
@[inline] def rotateRight (word count : UInt64) : UInt64 :=
  (word >>> count) ||| (word <<< (64 - count))

namespace Blake2b

/-- The hash's starting words. -/
def initial : Vector UInt64 8 :=
  #v[0x6a09e667f3bcc908, 0xbb67ae8584caa73b, 0x3c6ef372fe94f82b, 0xa54ff53a5f1d36f1,
     0x510e527fade682d1, 0x9b05688c2b3e6c1f, 0x1f83d9abfb41bd6b, 0x5be0cd19137e2179]

/-- The order in which each round takes the message words. -/
def schedule : List (Vector (Fin 16) 16) :=
  [#v[0, 1, 2, 3, 4, 5, 6, 7, 8, 9, 10, 11, 12, 13, 14, 15],
   #v[14, 10, 4, 8, 9, 15, 13, 6, 1, 12, 0, 2, 11, 7, 5, 3],
   #v[11, 8, 12, 0, 5, 2, 15, 13, 10, 14, 3, 6, 7, 1, 9, 4],
   #v[7, 9, 3, 1, 13, 12, 11, 14, 2, 6, 5, 10, 4, 0, 15, 8],
   #v[9, 0, 5, 7, 2, 4, 10, 15, 14, 1, 11, 12, 6, 8, 3, 13],
   #v[2, 12, 6, 10, 0, 11, 8, 3, 4, 13, 7, 5, 15, 14, 1, 9],
   #v[12, 5, 1, 15, 14, 13, 4, 10, 0, 7, 6, 3, 9, 2, 8, 11],
   #v[13, 11, 7, 14, 12, 1, 3, 9, 5, 0, 15, 4, 8, 6, 2, 10],
   #v[6, 15, 14, 9, 11, 3, 0, 8, 12, 2, 13, 7, 1, 4, 10, 5],
   #v[10, 2, 8, 4, 7, 6, 1, 5, 15, 11, 9, 14, 3, 12, 13, 0],
   #v[0, 1, 2, 3, 4, 5, 6, 7, 8, 9, 10, 11, 12, 13, 14, 15],
   #v[14, 10, 4, 8, 9, 15, 13, 6, 1, 12, 0, 2, 11, 7, 5, 3]]

/-- Mixes two message words into four words of the working vector. -/
def mix (v : Vector UInt64 16) (a b c d : Fin 16) (x y : UInt64) : Vector UInt64 16 :=
  let va := v[a] + v[b] + x
  let vd := rotateRight (v[d] ^^^ va) 32
  let vc := v[c] + vd
  let vb := rotateRight (v[b] ^^^ vc) 24
  let va := va + vb + y
  let vd := rotateRight (vd ^^^ va) 16
  let vc := vc + vd
  let vb := rotateRight (vb ^^^ vc) 63
  (((v.set a va).set b vb).set c vc).set d vd

/-- One round: the columns, then the diagonals. -/
def round (m : Vector UInt64 16) (v : Vector UInt64 16) (s : Vector (Fin 16) 16) :
    Vector UInt64 16 :=
  let v := mix v 0 4 8 12 m[s[0]] m[s[1]]
  let v := mix v 1 5 9 13 m[s[2]] m[s[3]]
  let v := mix v 2 6 10 14 m[s[4]] m[s[5]]
  let v := mix v 3 7 11 15 m[s[6]] m[s[7]]
  let v := mix v 0 5 10 15 m[s[8]] m[s[9]]
  let v := mix v 1 6 11 12 m[s[10]] m[s[11]]
  let v := mix v 2 7 8 13 m[s[12]] m[s[13]]
  mix v 3 4 9 14 m[s[14]] m[s[15]]

/-- Absorbs one block of sixteen words; `total` counts the bytes absorbed with it. -/
def compress (h : Vector UInt64 8) (m : Vector UInt64 16) (total : Nat) (last : Bool) :
    Vector UInt64 8 :=
  let v := (h ++ initial : Vector UInt64 16)
  let v := v.set 12 (v[12] ^^^ total.toUInt64)
  let v := v.set 13 (v[13] ^^^ (total / 18446744073709551616).toUInt64)
  let v := if last then v.set 14 (v[14] ^^^ 0xffffffffffffffff) else v
  let v := schedule.foldl (round m) v
  Vector.ofFn fun i : Fin 8 =>
    h[i] ^^^ v.get ⟨i, by omega⟩ ^^^ v.get ⟨i + 8, by omega⟩

/-- The sixteen words of a block; a short block is filled with zeros. -/
def words (block : List UInt8) : Vector UInt64 16 :=
  let bytes := block.toArray
  Vector.ofFn fun i : Fin 16 =>
    (ofLittleEndian ((List.range 8).map fun j => bytes.getD (8 * i.val + j) 0)).toUInt64

/-- Absorbs the remaining blocks; `fuel` bounds their number. -/
def absorb : Nat → Vector UInt64 8 → Nat → List UInt8 → Vector UInt64 8
  | 0, h, _, _ => h
  | fuel + 1, h, done, bytes =>
    if bytes.length ≤ 128 then
      compress h (words bytes) (done + bytes.length) true
    else
      absorb fuel (compress h (words (bytes.take 128)) (done + 128) false) (done + 128)
        (bytes.drop 128)

/-- The digest of `bytes` with `size` bytes, 64 at most. -/
def digest (size : Nat) (bytes : List UInt8) : List UInt8 :=
  let h := initial.set 0 (initial[0] ^^^ 0x01010000 ^^^ size.toUInt64)
  ((absorb (bytes.length / 128 + 1) h 0 bytes).toList.flatMap
    fun word => littleEndian 8 word.toNat).take size

/-- The last digest and, before it, the first half of each digest in a chain. -/
def chain (size : Nat) : Nat → List UInt8 → List UInt8
  | 0, v => digest size v
  | count + 1, v =>
    let next := digest 64 v
    next.take 32 ++ chain size count next

/-- A hash of any size: a digest up to 64 bytes, else a chain of digests. -/
def stretch (size : Nat) (bytes : List UInt8) : List UInt8 :=
  let input := littleEndian 4 size ++ bytes
  if size ≤ 64 then digest size input
  else
    let count := (size + 31) / 32 - 2
    chain (size - 32 * count) count input

end Blake2b

end Folio.Password
