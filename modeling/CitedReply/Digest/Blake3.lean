import CitedReply.Text.Hex
import CitedReply.Text.Utf8

/-!
# CitedReply.Digest.Blake3

The BLAKE3 hash. The input is cut into chunks of 1024 bytes, each chunk into blocks of 64; the
chunks are the leaves of a binary tree whose root gives the digest.
-/

namespace CitedReply
namespace Blake3

abbrev Chain := Vector UInt32 8
abbrev Words := Vector UInt32 16

def initial : Chain :=
  #v[0x6A09E667, 0xBB67AE85, 0x3C6EF372, 0xA54FF53A, 0x510E527F, 0x9B05688C, 0x1F83D9AB, 0x5BE0CD19]

def order : Vector (Fin 16) 16 := #v[2, 6, 3, 10, 7, 0, 4, 13, 1, 11, 12, 5, 9, 14, 15, 8]

def chunkStart : UInt32 := 1
def chunkEnd : UInt32 := 2
def parent : UInt32 := 4
def root : UInt32 := 8

def rotate (x : UInt32) (n : UInt32) : UInt32 := (x >>> n) ||| (x <<< (32 - n))

def put (v : Words) (i : Fin 16) (x : UInt32) : Words := v.set i.val x i.isLt

/-- Mixes two words of the message into four words of the state. -/
def mix (v : Words) (a b c d : Fin 16) (x y : UInt32) : Words :=
  let v := put v a (v[a] + v[b] + x)
  let v := put v d (rotate (v[d] ^^^ v[a]) 16)
  let v := put v c (v[c] + v[d])
  let v := put v b (rotate (v[b] ^^^ v[c]) 12)
  let v := put v a (v[a] + v[b] + y)
  let v := put v d (rotate (v[d] ^^^ v[a]) 8)
  let v := put v c (v[c] + v[d])
  put v b (rotate (v[b] ^^^ v[c]) 7)

/-- Mixes the columns, then the diagonals. -/
def round (v m : Words) : Words :=
  let v := mix v 0 4 8 12 m[0] m[1]
  let v := mix v 1 5 9 13 m[2] m[3]
  let v := mix v 2 6 10 14 m[4] m[5]
  let v := mix v 3 7 11 15 m[6] m[7]
  let v := mix v 0 5 10 15 m[8] m[9]
  let v := mix v 1 6 11 12 m[10] m[11]
  let v := mix v 2 7 8 13 m[12] m[13]
  mix v 3 4 9 14 m[14] m[15]

def rounds : Nat → Words → Words → Words
  | 0, v, _ => v
  | n + 1, v, m => rounds n (round v m) (order.map fun i => m[i])

/-- A node of the tree before its last block is compressed. -/
structure Node where
  chain : Chain
  block : Words
  counter : Nat
  length : Nat
  flags : UInt32

namespace Node

def compress (n : Node) : Chain :=
  let h := n.chain
  let k := initial
  let v : Words :=
    #v[h[0], h[1], h[2], h[3], h[4], h[5], h[6], h[7], k[0], k[1], k[2], k[3],
      UInt32.ofNat n.counter, UInt32.ofNat (n.counter / Nat.pow 2 32), UInt32.ofNat n.length, n.flags]
  let v := rounds 7 v n.block
  #v[v[0] ^^^ v[8], v[1] ^^^ v[9], v[2] ^^^ v[10], v[3] ^^^ v[11], v[4] ^^^ v[12], v[5] ^^^ v[13],
    v[6] ^^^ v[14], v[7] ^^^ v[15]]

def ofChildren (left right : Node) : Node :=
  ⟨initial, left.compress ++ right.compress, 0, 64, parent⟩

end Node

/-- Words of four bytes, the lowest first; missing bytes are zero. -/
def blockOf (bytes : Bytes) : Words :=
  Vector.ofFn fun i =>
    match (bytes.drop (4 * i.val)).take 4 with
    | [a, b, c, d] => a.toUInt32 ||| (b.toUInt32 <<< 8) ||| (c.toUInt32 <<< 16) ||| (d.toUInt32 <<< 24)
    | [a, b, c] => a.toUInt32 ||| (b.toUInt32 <<< 8) ||| (c.toUInt32 <<< 16)
    | [a, b] => a.toUInt32 ||| (b.toUInt32 <<< 8)
    | [a] => a.toUInt32
    | _ => 0

/-- The node of a chunk, whose first block gets the flag `start`. -/
def chunk (counter : Nat) (chain : Chain) (start : UInt32) (bytes : Bytes) : Node :=
  if bytes.length ≤ 64 then ⟨chain, blockOf bytes, counter, bytes.length, start ||| chunkEnd⟩
  else
    let first : Node := ⟨chain, blockOf (bytes.take 64), counter, 64, start⟩
    chunk counter first.compress 0 (bytes.drop 64)
termination_by bytes.length
decreasing_by simp; omega

/-- The nodes of all chunks; an empty input is one empty chunk. -/
def chunks (counter : Nat) (bytes : Bytes) : List Node :=
  let here := chunk counter initial chunkStart (bytes.take 1024)
  if bytes.length ≤ 1024 then [here] else here :: chunks (counter + 1) (bytes.drop 1024)
termination_by bytes.length
decreasing_by simp; omega

/-- How many of `n` leaves stand on the left: the greatest power of two below `n`. -/
def leftSize (n : Nat) : Nat := Nat.pow 2 (Nat.log2 (n - 1))

theorem leftSize_lt {n : Nat} (h : 2 ≤ n) : leftSize n < n := by
  have hle : leftSize n ≤ n - 1 := Nat.log2_self_le (by omega)
  omega

theorem leftSize_pos (n : Nat) : 0 < leftSize n := Nat.two_pow_pos _

def tree (first : Node) (others : List Node) : Node :=
  let n := leftSize (others.length + 1)
  match h : others.drop (n - 1) with
  | [] => first
  | f :: fs => Node.ofChildren (tree first (others.take (n - 1))) (tree f fs)
termination_by others.length
decreasing_by
  all_goals
    have hl := congrArg List.length h
    have hp := leftSize_pos (others.length + 1)
    simp only [List.length_drop, List.length_cons] at hl
    have ht := leftSize_lt (n := others.length + 1) (by omega)
    try simp only [List.length_take]
    omega

/-- The eight digits of a word, the lowest byte first. -/
def hexWord (w : UInt32) : Text :=
  [0, 8, 16, 24].flatMap fun shift =>
    let byte := w.toNat / Nat.pow 2 shift % 256
    [Text.hexDigit (byte / 16), Text.hexDigit (byte % 16)]

def hex (bytes : Bytes) : Text :=
  match chunks 0 bytes with
  | [] => []
  | c :: cs =>
    let top := tree c cs
    ({ top with flags := top.flags ||| root }).compress.toList.flatMap hexWord

end Blake3
end CitedReply
