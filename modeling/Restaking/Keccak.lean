/-!
# Keccak-256

The sponge with a rate of 136 bytes, a first padding byte `0x01` and 32 bytes of output, which names
contract functions and decides the letter case of addresses. Lane `(x, y)` of the state stands at
index `x + 5 * y`, and its bytes are in little-endian order.
-/
namespace Restaking.Keccak

/-- Twenty-five lanes. -/
abbrev State := Vector UInt64 25

/-- The index of a lane. -/
def lane (x y : Fin 5) : Fin 25 := ⟨x.val + 5 * y.val, by omega⟩

/-- A state given lane by lane. -/
def ofLanes (f : Fin 5 → Fin 5 → UInt64) : State :=
  Vector.ofFn fun i => f ⟨i.val % 5, by omega⟩ ⟨i.val / 5, by omega⟩

/-- How far each lane is turned. -/
def turns : Vector UInt64 25 :=
  #v[0, 1, 62, 28, 27, 36, 44, 6, 55, 20, 3, 10, 43, 25, 39, 41, 45, 15, 21, 8, 18, 2, 61, 56, 14]

def rotate (w n : UInt64) : UInt64 := (w <<< n) ||| (w >>> (64 - n))

/-- Adds to each lane the parities of two columns. -/
def theta (a : State) : State :=
  let column : Vector UInt64 5 := Vector.ofFn fun x =>
    a.get (lane x 0) ^^^ a.get (lane x 1) ^^^ a.get (lane x 2) ^^^ a.get (lane x 3)
      ^^^ a.get (lane x 4)
  let shift : Vector UInt64 5 := Vector.ofFn fun x => column.get (x + 4) ^^^ rotate (column.get (x + 1)) 1
  ofLanes fun x y => a.get (lane x y) ^^^ shift.get x

/-- Turns each lane and moves it to its new place. -/
def rhoPi (a : State) : State :=
  ofLanes fun x y =>
    let source := lane (x + 3 * y) x
    rotate (a.get source) (turns.get source)

/-- Mixes each lane with the next two of its row. -/
def chi (a : State) : State :=
  ofLanes fun x y => a.get (lane x y) ^^^ (~~~ a.get (lane (x + 1) y) &&& a.get (lane (x + 2) y))

/-- One constant a round. -/
def roundConstants : List UInt64 :=
  [0x0000000000000001, 0x0000000000008082, 0x800000000000808A, 0x8000000080008000,
   0x000000000000808B, 0x0000000080000001, 0x8000000080008081, 0x8000000000008009,
   0x000000000000008A, 0x0000000000000088, 0x0000000080008009, 0x000000008000000A,
   0x000000008000808B, 0x800000000000008B, 0x8000000000008089, 0x8000000000008003,
   0x8000000000008002, 0x8000000000000080, 0x000000000000800A, 0x800000008000000A,
   0x8000000080008081, 0x8000000000008080, 0x0000000080000001, 0x8000000080008008]

def round (a : State) (c : UInt64) : State :=
  let b := chi (rhoPi (theta a))
  b.set 0 (b.get 0 ^^^ c)

/-- The twenty-four rounds. -/
def permute (a : State) : State := roundConstants.foldl round a

/-- The bytes absorbed by one permutation. -/
def rate : Nat := 136

/-- A message with a byte `0x01`, zeros, and the top bit of its last block set. -/
def pad (message : List UInt8) : List UInt8 :=
  match rate - message.length % rate with
  | 0 | 1 => message ++ [0x81]
  | n + 2 => message ++ 0x01 :: (List.replicate n 0 ++ [0x80])

/-- A word from bytes, the lowest first. -/
def wordOfBytes (bs : List UInt8) : UInt64 := bs.foldr (fun b w => (w <<< 8) ||| b.toUInt64) 0

def bytesOfWord (w : UInt64) : List UInt8 :=
  (List.range 8).map fun i => (w >>> (8 * i.toUInt64)).toUInt8

/-- Adds one block to the state and permutes. -/
def absorb (a : State) (block : List UInt8) : State :=
  permute (Vector.ofFn fun i =>
    if i.val < 17 then a.get i ^^^ wordOfBytes ((block.drop (8 * i.val)).take 8) else a.get i)

/-- Absorbs block after block. -/
def absorbAll (a : State) (bytes : List UInt8) : State :=
  if _h : bytes = [] then a
  else absorbAll (absorb a (bytes.take rate)) (bytes.drop rate)
termination_by bytes.length
decreasing_by
  have := List.length_pos_iff.2 _h
  simp only [List.length_drop, rate]
  omega

/-- The hash of a message. -/
def hash (message : List UInt8) : List UInt8 :=
  let a := absorbAll (Vector.replicate 25 0) (pad message)
  ((a.toList).flatMap bytesOfWord).take 32

theorem length_hash (message : List UInt8) : (hash message).length = 32 := by
  have h (ws : List UInt64) : (ws.flatMap bytesOfWord).length = 8 * ws.length := by
    induction ws with
    | nil => rfl
    | cons w rest ih =>
      simp only [List.flatMap_cons, List.length_append, ih, bytesOfWord, List.length_map,
        List.length_range, List.length_cons]
      omega
  simp [hash, h]

-- The hash of no bytes.
example : hash [] =
    [0xC5, 0xD2, 0x46, 0x01, 0x86, 0xF7, 0x23, 0x3C, 0x92, 0x7E, 0x7D, 0xB2, 0xDC, 0xC7, 0x03, 0xC0,
     0xE5, 0x00, 0xB6, 0x53, 0xCA, 0x82, 0x27, 0x3B, 0x7B, 0xFA, 0xD8, 0x04, 0x5D, 0x85, 0xA4, 0x70] := by
  decide +kernel

/-- The bytes of a text of ASCII characters. -/
def asciiBytes (cs : List Char) : List UInt8 := cs.map fun c => UInt8.ofNat c.toNat

/-- The hash of a text of ASCII characters. -/
def hashText (cs : List Char) : List UInt8 := hash (asciiBytes cs)

end Restaking.Keccak
