import SlackBridge.Text.Utf8

/-!
SHA-256 of byte strings.

A message is padded to whole blocks of 64 bytes and the blocks are folded into the state one after
the other.
-/

namespace SlackBridge.Crypto.Sha256

structure State where
  a : UInt32
  b : UInt32
  c : UInt32
  d : UInt32
  e : UInt32
  f : UInt32
  g : UInt32
  h : UInt32

def initial : State :=
  ⟨0x6a09e667, 0xbb67ae85, 0x3c6ef372, 0xa54ff53a, 0x510e527f, 0x9b05688c, 0x1f83d9ab, 0x5be0cd19⟩

def roundConstants : List UInt32 := [
  0x428a2f98, 0x71374491, 0xb5c0fbcf, 0xe9b5dba5, 0x3956c25b, 0x59f111f1, 0x923f82a4, 0xab1c5ed5,
  0xd807aa98, 0x12835b01, 0x243185be, 0x550c7dc3, 0x72be5d74, 0x80deb1fe, 0x9bdc06a7, 0xc19bf174,
  0xe49b69c1, 0xefbe4786, 0x0fc19dc6, 0x240ca1cc, 0x2de92c6f, 0x4a7484aa, 0x5cb0a9dc, 0x76f988da,
  0x983e5152, 0xa831c66d, 0xb00327c8, 0xbf597fc7, 0xc6e00bf3, 0xd5a79147, 0x06ca6351, 0x14292967,
  0x27b70a85, 0x2e1b2138, 0x4d2c6dfc, 0x53380d13, 0x650a7354, 0x766a0abb, 0x81c2c92e, 0x92722c85,
  0xa2bfe8a1, 0xa81a664b, 0xc24b8b70, 0xc76c51a3, 0xd192e819, 0xd6990624, 0xf40e3585, 0x106aa070,
  0x19a4c116, 0x1e376c08, 0x2748774c, 0x34b0bcb5, 0x391c0cb3, 0x4ed8aa4a, 0x5b9cca4f, 0x682e6ff3,
  0x748f82ee, 0x78a5636f, 0x84c87814, 0x8cc70208, 0x90befffa, 0xa4506ceb, 0xbef9a3f7, 0xc67178f2]

def rotate (x : UInt32) (n : UInt32) : UInt32 :=
  (x >>> n) ||| (x <<< (32 - n))

/-- One round with a round constant and a word of the schedule. -/
def round (s : State) (k w : UInt32) : State :=
  let mix := rotate s.e 6 ^^^ rotate s.e 11 ^^^ rotate s.e 25
  let choice := (s.e &&& s.f) ^^^ (~~~s.e &&& s.g)
  let t1 := s.h + mix + choice + k + w
  let fold := rotate s.a 2 ^^^ rotate s.a 13 ^^^ rotate s.a 22
  let majority := (s.a &&& s.b) ^^^ (s.a &&& s.c) ^^^ (s.b &&& s.c)
  ⟨t1 + (fold + majority), s.a, s.b, s.c, s.d + t1, s.e, s.f, s.g⟩

/-- The sixteen schedule words from the current one on, kept in a ring that starts at `start`. -/
structure Window where
  words : Vector UInt32 16
  start : Fin 16

/-- The current word, and the window that starts one word later. -/
def Window.next (w : Window) : UInt32 × Window :=
  let current := w.words[w.start]
  let x := w.words[w.start + 1]
  let y := w.words[w.start + 14]
  let spreadX := rotate x 7 ^^^ rotate x 18 ^^^ (x >>> 3)
  let spreadY := rotate y 17 ^^^ rotate y 19 ^^^ (y >>> 10)
  let fresh := spreadY + w.words[w.start + 9] + spreadX + current
  (current, ⟨w.words.set w.start fresh, w.start + 1⟩)

/-- The words of a block, most significant byte first. -/
def blockWords : Bytes → List UInt32
  | a :: b :: c :: d :: rest =>
    (a.toUInt32 <<< 24 ||| b.toUInt32 <<< 16 ||| c.toUInt32 <<< 8 ||| d.toUInt32) :: blockWords rest
  | _ => []

/-- Folds one block of 64 bytes into the state. -/
def compress (s : State) (block : Bytes) : State :=
  let words := blockWords block
  let window : Window := ⟨Vector.ofFn fun i => words.getD i 0, 0⟩
  let (r, _) := roundConstants.foldl (fun (s, w) k =>
    let (word, w) := w.next
    (round s k word, w)) (s, window)
  ⟨s.a + r.a, s.b + r.b, s.c + r.c, s.d + r.d, s.e + r.e, s.f + r.f, s.g + r.g, s.h + r.h⟩

/-- The bytes of a 64-bit number, most significant first. -/
def lengthBytes (n : Nat) : Bytes :=
  [56, 48, 40, 32, 24, 16, 8, 0].map fun shift => UInt8.ofNat (n >>> shift)

/-- The message followed by a one bit, zero bits and its length in bits, in whole blocks. -/
def pad (message : Bytes) : Bytes :=
  let zeros := (119 - message.length % 64) % 64
  message ++ 0x80 :: (List.replicate zeros 0 ++ lengthBytes (8 * message.length))

/-- Folds all blocks into the state. -/
def absorb (s : State) (bytes : Bytes) : State :=
  if bytes = [] then s else absorb (compress s (bytes.take 64)) (bytes.drop 64)
termination_by bytes.length
decreasing_by
  have : bytes.length ≠ 0 := by simp_all
  simp only [List.length_drop]
  omega

def wordBytes (w : UInt32) : Bytes :=
  [(w >>> 24).toUInt8, (w >>> 16).toUInt8, (w >>> 8).toUInt8, w.toUInt8]

/-- The 32 bytes of the digest. -/
def digest (message : Bytes) : Bytes :=
  let s := absorb initial (pad message)
  [s.a, s.b, s.c, s.d, s.e, s.f, s.g, s.h].flatMap wordBytes

theorem length_digest (message : Bytes) : (digest message).length = 32 := by
  simp [digest, wordBytes]

end SlackBridge.Crypto.Sha256
