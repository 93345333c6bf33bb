import ProxyMesh.Number.Bounds

/-!
# A random choice decided by a key

The words of a ChaCha key stream with twelve rounds, block counter and stream number zero, and a
choice among `n` that uses them without bias: a word times `n` has the choice in its upper half, and
a word whose lower half is beyond the last whole share is passed over.

* `KeyStream.block`    sixteen words of the stream;
* `KeyStream.choose`   a number below `n`.
-/

namespace ProxyMesh.KeyStream

def rotateLeft (x : UInt32) (n : UInt32) : UInt32 := (x <<< n) ||| (x >>> (32 - n))

/-- the quarter round on four places of the state -/
def quarter (s : Array UInt32) (i j k l : Nat) : Array UInt32 :=
  let a := s.getD i 0
  let b := s.getD j 0
  let c := s.getD k 0
  let d := s.getD l 0
  let a := a + b
  let d := rotateLeft (d ^^^ a) 16
  let c := c + d
  let b := rotateLeft (b ^^^ c) 12
  let a := a + b
  let d := rotateLeft (d ^^^ a) 8
  let c := c + d
  let b := rotateLeft (b ^^^ c) 7
  (((s.setIfInBounds i a).setIfInBounds j b).setIfInBounds k c).setIfInBounds l d

/-- a round on the columns and a round on the diagonals -/
def doubleRound (s : Array UInt32) : Array UInt32 :=
  let s := quarter (quarter (quarter (quarter s 0 4 8 12) 1 5 9 13) 2 6 10 14) 3 7 11 15
  quarter (quarter (quarter (quarter s 0 5 10 15) 1 6 11 12) 2 7 8 13) 3 4 9 14

/-- the little-endian words of the key bytes -/
def keyWords : List UInt8 → List UInt32
  | a :: b :: c :: d :: rest =>
    (a.toUInt32 ||| (b.toUInt32 <<< 8) ||| (c.toUInt32 <<< 16) ||| (d.toUInt32 <<< 24)) ::
      keyWords rest
  | _ => []

/-- the words of block `counter` -/
def block (key : List UInt8) (counter : Nat) : List UInt32 :=
  let start : Array UInt32 :=
    #[0x61707865, 0x3320646e, 0x79622d32, 0x6b206574] ++ (keyWords key).toArray ++
      #[UInt32.ofNat counter, UInt32.ofNat (counter / halfWordBound), 0, 0]
  let mixed := Nat.fold 6 (fun _ _ s => doubleRound s) start
  (Array.zipWith (· + ·) start mixed).toList

/-- the last lower half of a product that is accepted -/
def zone (n : Nat) : Nat := (n * Nat.pow 2 (31 - n.log2) - 1) % halfWordBound

/-- the first accepted word's share among `n`; 0 if no word is accepted -/
def pick (n : Nat) : List UInt32 → Option Nat
  | [] => none
  | w :: rest =>
    let product := w.toNat * n
    if product % halfWordBound ≤ zone n then some (product / halfWordBound) else pick n rest

/-- a number below `n`, decided by the key -/
def choose (key : List UInt8) (n : Nat) : Nat :=
  ((List.range 8).findSome? fun i => pick n (block key i)).getD 0

theorem pick_lt {n i : Nat} (hn : 0 < n) {words : List UInt32} (h : pick n words = some i) : i < n := by
  induction words with
  | nil => simp [pick] at h
  | cons w rest ih =>
    simp only [pick] at h
    split at h
    · injection h with h
      subst h
      exact Nat.div_lt_of_lt_mul (Nat.mul_lt_mul_of_pos_right w.toNat_lt hn)
    · exact ih h

theorem choose_lt {key : List UInt8} {n : Nat} (hn : 0 < n) : choose key n < n := by
  unfold choose
  cases h : (List.range 8).findSome? fun i => pick n (block key i) with
  | none => exact hn
  | some i =>
    obtain ⟨_, _, _, _, hi, _⟩ := List.findSome?_eq_some_iff.1 h
    exact pick_lt hn hi

end ProxyMesh.KeyStream
