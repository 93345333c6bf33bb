/-!
# SHA-256

* `Sha256.digest`   the 32 bytes of a message's digest;
* `Sha256.hexOfBytes`, `Sha256.hex`   the digest of bytes and of a text as 64 hexadecimal digits.
-/

namespace ProxyMesh.Sha256

/-- fractional parts of the cube roots of the first 64 primes -/
def roundWords : Array UInt32 := #[
  0x428a2f98, 0x71374491, 0xb5c0fbcf, 0xe9b5dba5, 0x3956c25b, 0x59f111f1, 0x923f82a4, 0xab1c5ed5,
  0xd807aa98, 0x12835b01, 0x243185be, 0x550c7dc3, 0x72be5d74, 0x80deb1fe, 0x9bdc06a7, 0xc19bf174,
  0xe49b69c1, 0xefbe4786, 0x0fc19dc6, 0x240ca1cc, 0x2de92c6f, 0x4a7484aa, 0x5cb0a9dc, 0x76f988da,
  0x983e5152, 0xa831c66d, 0xb00327c8, 0xbf597fc7, 0xc6e00bf3, 0xd5a79147, 0x06ca6351, 0x14292967,
  0x27b70a85, 0x2e1b2138, 0x4d2c6dfc, 0x53380d13, 0x650a7354, 0x766a0abb, 0x81c2c92e, 0x92722c85,
  0xa2bfe8a1, 0xa81a664b, 0xc24b8b70, 0xc76c51a3, 0xd192e819, 0xd6990624, 0xf40e3585, 0x106aa070,
  0x19a4c116, 0x1e376c08, 0x2748774c, 0x34b0bcb5, 0x391c0cb3, 0x4ed8aa4a, 0x5b9cca4f, 0x682e6ff3,
  0x748f82ee, 0x78a5636f, 0x84c87814, 0x8cc70208, 0x90befffa, 0xa4506ceb, 0xbef9a3f7, 0xc67178f2]

def rotateRight (x : UInt32) (n : UInt32) : UInt32 := (x >>> n) ||| (x <<< (32 - n))

/-- the chaining state -/
structure State where
  a : UInt32
  b : UInt32
  c : UInt32
  d : UInt32
  e : UInt32
  f : UInt32
  g : UInt32
  h : UInt32

/-- fractional parts of the square roots of the first 8 primes -/
def State.initial : State :=
  ⟨0x6a09e667, 0xbb67ae85, 0x3c6ef372, 0xa54ff53a, 0x510e527f, 0x9b05688c, 0x1f83d9ab, 0x5be0cd19⟩

def State.words (s : State) : List UInt32 := [s.a, s.b, s.c, s.d, s.e, s.f, s.g, s.h]

def State.add (s t : State) : State :=
  ⟨s.a + t.a, s.b + t.b, s.c + t.c, s.d + t.d, s.e + t.e, s.f + t.f, s.g + t.g, s.h + t.h⟩

/-- one round with the sum of its schedule and round words -/
def State.round (s : State) (word : UInt32) : State :=
  let s1 := rotateRight s.e 6 ^^^ rotateRight s.e 11 ^^^ rotateRight s.e 25
  let choice := (s.e &&& s.f) ^^^ ((~~~s.e) &&& s.g)
  let t1 := s.h + s1 + choice + word
  let s0 := rotateRight s.a 2 ^^^ rotateRight s.a 13 ^^^ rotateRight s.a 22
  let majority := (s.a &&& s.b) ^^^ (s.a &&& s.c) ^^^ (s.b &&& s.c)
  ⟨t1 + (s0 + majority), s.a, s.b, s.c, s.d + t1, s.e, s.f, s.g⟩

/-- one more word of the message schedule -/
def nextWord (w : Array UInt32) : UInt32 :=
  let ago (back : Nat) : UInt32 := w.getD (w.size - back) 0
  let x := ago 15
  let y := ago 2
  let s0 := rotateRight x 7 ^^^ rotateRight x 18 ^^^ (x >>> 3)
  let s1 := rotateRight y 17 ^^^ rotateRight y 19 ^^^ (y >>> 10)
  ago 16 + s0 + ago 7 + s1

/-- sixteen words of a block extended to sixty-four -/
def schedule (block : Array UInt32) : Array UInt32 :=
  Nat.fold 48 (fun _ _ w => w.push (nextWord w)) block

def compress (s : State) (block : Array UInt32) : State :=
  let w := schedule block
  s.add (Nat.fold 64 (fun i _ t => t.round (roundWords.getD i 0 + w.getD i 0)) s)

def wordOf (a b c d : UInt8) : UInt32 :=
  (a.toUInt32 <<< 24) ||| (b.toUInt32 <<< 16) ||| (c.toUInt32 <<< 8) ||| d.toUInt32

def bytesOf (w : UInt32) : List UInt8 :=
  [(w >>> 24).toUInt8, (w >>> 16).toUInt8, (w >>> 8).toUInt8, w.toUInt8]

/-- the message, a one bit, zeros, and the message's length in bits in the last eight bytes -/
def pad (message : ByteArray) : ByteArray :=
  let size := message.size
  let zeros := (119 - size % 64) % 64
  let bits := UInt64.ofNat (8 * size)
  let padded := Nat.fold zeros (fun _ _ (m : ByteArray) => m.push 0) (message.push 0x80)
  Nat.fold 8 (fun i _ (m : ByteArray) => m.push (bits >>> UInt64.ofNat (56 - 8 * i)).toUInt8) padded

/-- the sixteen words of block `i` -/
def blockAt (m : ByteArray) (i : Nat) : Array UInt32 :=
  let byte (k : Nat) : UInt8 := m.data.getD (64 * i + k) 0
  (Array.range 16).map fun k => wordOf (byte (4 * k)) (byte (4 * k + 1)) (byte (4 * k + 2)) (byte (4 * k + 3))

def digest (message : ByteArray) : List UInt8 :=
  let padded := pad message
  (Nat.fold (padded.size / 64) (fun i _ s => compress s (blockAt padded i)) State.initial).words.flatMap
    bytesOf

/-- two hexadecimal digits -/
def hexByte (b : UInt8) : List Char := [Nat.digitChar (b.toNat / 16), Nat.digitChar (b.toNat % 16)]

/-- the digest of bytes in hexadecimal -/
def hexOfBytes (bytes : ByteArray) : String := String.ofList ((digest bytes).flatMap hexByte)

/-- the digest of a text in hexadecimal -/
def hex (s : String) : String := hexOfBytes s.toUTF8

end ProxyMesh.Sha256
