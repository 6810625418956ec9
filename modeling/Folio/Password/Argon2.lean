import Folio.Password.Argon2.Block

/-!
# Argon2

`Argon2.tag` is the memory-hard function: a tag from a password, a salt and the cost parameters,
for the three variants and both versions of the algorithm.
-/

namespace Folio.Password.Argon2

/-- Which addressing the passes use. -/
inductive Variant
  /-- Addresses depend on the memory's content. -/
  | d
  /-- Addresses depend on the position only. -/
  | i
  /-- The first half of the first pass as `i`, the rest as `d`. -/
  | id
  deriving DecidableEq, Repr

/-- The variant's number in the initial digest. -/
def Variant.number : Variant → Nat
  | d => 0
  | i => 1
  | id => 2

/-- The two published versions of the algorithm. -/
inductive Version
  | v16
  | v19
  deriving DecidableEq, Repr

/-- The version's number. -/
def Version.number : Version → Nat
  | v16 => 16
  | v19 => 19

/-- Everything but the password and the salt that the tag depends on. -/
structure Params where
  variant : Variant
  version : Version
  /-- Memory in kibibytes. -/
  memory : Nat
  /-- Number of passes. -/
  passes : Nat
  /-- Number of lanes. -/
  lanes : Nat
  /-- Associated data. -/
  data : List UInt8
  /-- Size of the tag in bytes. -/
  size : Nat
  deriving DecidableEq, Repr

namespace Params

/-- Columns in a quarter of a lane. -/
def segment (p : Params) : Nat := p.memory / (4 * p.lanes)

/-- Columns in a lane. -/
def columns (p : Params) : Nat := 4 * p.segment

/-- Blocks in all lanes together. -/
def blocks (p : Params) : Nat := p.lanes * p.columns

end Params

/-- The digest that every block goes back to. -/
def seed (p : Params) (password salt : List UInt8) : List UInt8 :=
  let sized (bytes : List UInt8) := littleEndian 4 bytes.length ++ bytes
  Blake2b.digest 64 <|
    [p.lanes, p.size, p.memory, p.passes, p.version.number, p.variant.number].flatMap
        (littleEndian 4)
      ++ sized password ++ sized salt ++ sized [] ++ sized p.data

/-- A place in the order in which the memory is filled. -/
structure Position where
  pass : Nat
  slice : Nat
  lane : Nat
  index : Nat

/-- Whether addresses come from a counter and not from the memory. -/
def Position.byCounter (pos : Position) : Variant → Bool
  | .d => false
  | .i => true
  | .id => pos.pass == 0 && pos.slice < 2

/-- The block of 128 addresses with the given number, for a segment. -/
def addresses (p : Params) (pos : Position) (counter : Nat) : Block :=
  let input := Block.ofFn fun i =>
    match i with
    | 0 => pos.pass.toUInt64
    | 1 => pos.lane.toUInt64
    | 2 => pos.slice.toUInt64
    | 3 => p.blocks.toUInt64
    | 4 => p.passes.toUInt64
    | 5 => p.variant.number.toUInt64
    | 6 => counter.toUInt64
    | _ => 0
  Block.zero.combine (Block.zero.combine input)

/-- The column of the reference block that `random` chooses. -/
def referenceColumn (p : Params) (pos : Position) (sameLane : Bool) (random : UInt64) : Nat :=
  let finished := if pos.pass == 0 then pos.slice * p.segment else p.columns - p.segment
  let area :=
    if pos.pass == 0 && pos.slice == 0 || sameLane then finished + pos.index - 1
    else if pos.index == 0 then finished - 1 else finished
  let low := random.toNat % 4294967296
  let back := area * (low * low / 4294967296) / 4294967296
  let start := if pos.pass == 0 || pos.slice == 3 then 0 else (pos.slice + 1) * p.segment
  (start + (area - 1 - back)) % p.columns

/-- Fills the block at a position; `table` holds the current addresses. -/
def fillBlock (p : Params) (pos : Position) (table : Block) (memory : Array Block) :
    Array Block :=
  let column := pos.slice * p.segment + pos.index
  let base := pos.lane * p.columns
  let previous := memory.getD (base + (if column == 0 then p.columns - 1 else column - 1)) .zero
  let random :=
    if pos.byCounter p.variant then table.word (pos.index % 128) else previous.r0.w0
  let lane :=
    if pos.pass == 0 && pos.slice == 0 then pos.lane
    else (random >>> 32).toNat % p.lanes
  let reference :=
    memory.getD (lane * p.columns + referenceColumn p pos (lane == pos.lane) random) .zero
  let fresh := previous.combine reference
  let fresh :=
    if pos.pass != 0 && p.version == .v19 then fresh.xor (memory.getD (base + column) .zero)
    else fresh
  memory.setIfInBounds (base + column) fresh

/-- Fills `count` blocks of a segment from a position on. -/
def fillSegment (p : Params) : Nat → Position → Block → Array Block → Array Block
  | 0, _, _, memory => memory
  | count + 1, pos, table, memory =>
    let table :=
      if pos.byCounter p.variant && (pos.index % 128 == 0 || pos.pass == 0 && pos.slice == 0
          && pos.index == 2) then
        addresses p pos (pos.index / 128 + 1)
      else table
    let memory := fillBlock p pos table memory
    fillSegment p count { pos with index := pos.index + 1 } table memory

/-- Fills the segments of one slice, lane by lane. -/
def fillSlice (p : Params) (pass slice : Nat) (memory : Array Block) : Array Block :=
  let first := if pass == 0 && slice == 0 then 2 else 0
  (List.range p.lanes).foldl
    (fun memory lane => fillSegment p (p.segment - first) ⟨pass, slice, lane, first⟩ .zero memory)
    memory

/-- Runs every pass over the memory. -/
def fill (p : Params) (memory : Array Block) : Array Block :=
  (List.range p.passes).foldl
    (fun memory pass => (List.range 4).foldl (fun memory slice => fillSlice p pass slice memory)
      memory)
    memory

/-- The memory with the first two columns of every lane set. -/
def start (p : Params) (seed : List UInt8) : Array Block :=
  (List.range p.lanes).foldl
    (fun memory lane =>
      let block (column : Nat) :=
        Block.ofBytes (Blake2b.stretch 1024 (seed ++ littleEndian 4 column ++ littleEndian 4 lane))
      (memory.setIfInBounds (lane * p.columns) (block 0)).setIfInBounds (lane * p.columns + 1)
        (block 1))
    (Array.replicate p.blocks .zero)

/-- The tag of a password under a salt. -/
def tag (p : Params) (password salt : List UInt8) : List UInt8 :=
  let memory := fill p (start p (seed p password salt))
  let last := (List.range p.lanes).foldl
    (fun block lane => block.xor (memory.getD (lane * p.columns + p.columns - 1) .zero))
    Block.zero
  Blake2b.stretch p.size last.toBytes

end Folio.Password.Argon2
