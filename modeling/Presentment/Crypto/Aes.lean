import Presentment.Bytes

/-!
# AES-256

The cipher works on four columns of four bytes.  Bytes are polynomials over two elements
modulo `x ^ 8 + x ^ 4 + x ^ 3 + x + 1`; the substitution of a byte is an affine map of its
inverse.  Only encryption of a block is needed.
-/

namespace Presentment.Aes

/-- `x` times the polynomial of a byte. -/
def double (b : UInt8) : UInt8 :=
  if b &&& 0x80 = 0 then b <<< 1 else (b <<< 1) ^^^ 0x1B

/-- The product of two bytes, from the lowest `bits` bits of the second. -/
def multiply (a b : UInt8) : (bits : Nat) → UInt8
  | 0 => 0
  | bits + 1 =>
    let rest := multiply (double a) (b >>> 1) bits
    if b &&& 1 = 0 then rest else rest ^^^ a

/-- The inverse of a byte, which is its power with exponent 254; zero for zero. -/
def inverse (b : UInt8) : UInt8 :=
  let times (x y : UInt8) : UInt8 := multiply x y 8
  let b2 := times b b
  let b4 := times b2 b2
  let b8 := times b4 b4
  let b16 := times b8 b8
  let b32 := times b16 b16
  let b64 := times b32 b32
  let b128 := times b64 b64
  times b2 (times b4 (times b8 (times b16 (times b32 (times b64 b128)))))

/-- A byte rotated to the left. -/
def rotate (b n : UInt8) : UInt8 :=
  (b <<< n) ||| (b >>> (8 - n))

/-- The substitution of every byte. -/
def substitutions : Array UInt8 :=
  Array.ofFn (fun i : Fin 256 =>
    let b := inverse (UInt8.ofNat i.val)
    b ^^^ rotate b 1 ^^^ rotate b 2 ^^^ rotate b 3 ^^^ rotate b 4 ^^^ 0x63)

/-- The substitution of a byte. -/
def substitute (b : UInt8) : UInt8 :=
  substitutions.getD b.toNat 0

/-- A column of the state. -/
structure Column where
  b0 : UInt8
  b1 : UInt8
  b2 : UInt8
  b3 : UInt8

def Column.xor (x y : Column) : Column :=
  ⟨x.b0 ^^^ y.b0, x.b1 ^^^ y.b1, x.b2 ^^^ y.b2, x.b3 ^^^ y.b3⟩

def Column.substitute (c : Column) : Column :=
  ⟨Aes.substitute c.b0, Aes.substitute c.b1, Aes.substitute c.b2, Aes.substitute c.b3⟩

/-- A column multiplied by the mixing polynomial. -/
def Column.mix (c : Column) : Column :=
  let term (w x y z : UInt8) : UInt8 := double w ^^^ (double x ^^^ x) ^^^ y ^^^ z
  ⟨term c.b0 c.b1 c.b2 c.b3, term c.b1 c.b2 c.b3 c.b0, term c.b2 c.b3 c.b0 c.b1,
    term c.b3 c.b0 c.b1 c.b2⟩

/-- Four columns: a block or a round key. -/
structure State where
  c0 : Column
  c1 : Column
  c2 : Column
  c3 : Column

namespace State

def map (f : Column → Column) (s : State) : State :=
  ⟨f s.c0, f s.c1, f s.c2, f s.c3⟩

def xor (s t : State) : State :=
  ⟨s.c0.xor t.c0, s.c1.xor t.c1, s.c2.xor t.c2, s.c3.xor t.c3⟩

/-- Row `i` rotated to the left by `i` columns. -/
def shiftRows (s : State) : State :=
  let column (w x y z : Column) : Column := ⟨w.b0, x.b1, y.b2, z.b3⟩
  ⟨column s.c0 s.c1 s.c2 s.c3, column s.c1 s.c2 s.c3 s.c0, column s.c2 s.c3 s.c0 s.c1,
    column s.c3 s.c0 s.c1 s.c2⟩

/-- The first sixteen bytes of a byte string; missing ones are zero. -/
def ofBytes (bs : Bytes) : State :=
  let byte (i : Nat) : UInt8 := bs.getD i 0
  let column (i : Nat) : Column := ⟨byte i, byte (i + 1), byte (i + 2), byte (i + 3)⟩
  ⟨column 0, column 4, column 8, column 12⟩

def toBytes (s : State) : Bytes :=
  [s.c0, s.c1, s.c2, s.c3].flatMap (fun c => [c.b0, c.b1, c.b2, c.b3])

end State

/-- The key of the round two rounds later: `seed` goes into its first column, and every
column into the next. -/
def nextKey (key : State) (seed : Column) : State :=
  let c0 := key.c0.xor seed
  let c1 := key.c1.xor c0
  let c2 := key.c2.xor c1
  let c3 := key.c3.xor c2
  ⟨c0, c1, c2, c3⟩

/-- The keys of `2 * count` rounds, from the keys of the first two. -/
def roundKeys (even odd : State) (constant : UInt8) : (count : Nat) → List State
  | 0 => []
  | count + 1 =>
    let last := odd.c3
    let rotated : Column := Column.substitute ⟨last.b1, last.b2, last.b3, last.b0⟩
    let even' := nextKey even (rotated.xor ⟨constant, 0, 0, 0⟩)
    let odd' := nextKey odd even'.c3.substitute
    even :: odd :: roundKeys even' odd' (double constant) count

/-- The keys of all fifteen rounds. -/
def schedule (key : Bytes) : List State :=
  (roundKeys (.ofBytes key) (.ofBytes (key.drop 16)) 1 8).take 15

/-- The rounds after the first key was added; the last one does not mix columns. -/
def rounds (s : State) : List State → State
  | [] => s
  | [key] => (s.map Column.substitute).shiftRows.xor key
  | key :: keys => rounds (((s.map Column.substitute).shiftRows.map Column.mix).xor key) keys

/-- A block encrypted under the keys of the rounds. -/
def encryptBlock (keys : List State) (block : Bytes) : Bytes :=
  match keys with
  | [] => block
  | first :: keys => (rounds ((State.ofBytes block).xor first) keys).toBytes

end Presentment.Aes
