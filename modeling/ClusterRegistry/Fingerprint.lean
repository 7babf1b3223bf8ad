import ClusterRegistry.Text.Basic

/-!
# Fingerprints of tokens

A token is never kept. What is shown in its place is the start of its SHA-256 digest, six
bytes in hexadecimal. The digest works on words of 32 bits with wrap-around.
-/

namespace ClusterRegistry.Fingerprint

/-- The round constants: the fractional parts of the cube roots of the first 64 primes. -/
def roundConstants : List UInt32 := [
  0x428a2f98, 0x71374491, 0xb5c0fbcf, 0xe9b5dba5, 0x3956c25b, 0x59f111f1, 0x923f82a4, 0xab1c5ed5,
  0xd807aa98, 0x12835b01, 0x243185be, 0x550c7dc3, 0x72be5d74, 0x80deb1fe, 0x9bdc06a7, 0xc19bf174,
  0xe49b69c1, 0xefbe4786, 0x0fc19dc6, 0x240ca1cc, 0x2de92c6f, 0x4a7484aa, 0x5cb0a9dc, 0x76f988da,
  0x983e5152, 0xa831c66d, 0xb00327c8, 0xbf597fc7, 0xc6e00bf3, 0xd5a79147, 0x06ca6351, 0x14292967,
  0x27b70a85, 0x2e1b2138, 0x4d2c6dfc, 0x53380d13, 0x650a7354, 0x766a0abb, 0x81c2c92e, 0x92722c85,
  0xa2bfe8a1, 0xa81a664b, 0xc24b8b70, 0xc76c51a3, 0xd192e819, 0xd6990624, 0xf40e3585, 0x106aa070,
  0x19a4c116, 0x1e376c08, 0x2748774c, 0x34b0bcb5, 0x391c0cb3, 0x4ed8aa4a, 0x5b9cca4f, 0x682e6ff3,
  0x748f82ee, 0x78a5636f, 0x84c87814, 0x8cc70208, 0x90befffa, 0xa4506ceb, 0xbef9a3f7, 0xc67178f2]

/-- The eight words of the state of a digest. -/
structure Words where
  a : UInt32
  b : UInt32
  c : UInt32
  d : UInt32
  e : UInt32
  f : UInt32
  g : UInt32
  h : UInt32

/-- The first state: the fractional parts of the square roots of the first eight primes. -/
def Words.initial : Words where
  a := 0x6a09e667
  b := 0xbb67ae85
  c := 0x3c6ef372
  d := 0xa54ff53a
  e := 0x510e527f
  f := 0x9b05688c
  g := 0x1f83d9ab
  h := 0x5be0cd19

/-- Rotation to the right. -/
def rotate (x : UInt32) (n : UInt32) : UInt32 := (x >>> n) ||| (x <<< (32 - n))

/-- One round of the compression with a word of the schedule and a constant. -/
def Words.round (s : Words) (w k : UInt32) : Words :=
  let s1 := rotate s.e 6 ^^^ rotate s.e 11 ^^^ rotate s.e 25
  let choice := (s.e &&& s.f) ^^^ (~~~s.e &&& s.g)
  let t1 := s.h + s1 + choice + k + w
  let s0 := rotate s.a 2 ^^^ rotate s.a 13 ^^^ rotate s.a 22
  let majority := (s.a &&& s.b) ^^^ (s.a &&& s.c) ^^^ (s.b &&& s.c)
  ⟨t1 + (s0 + majority), s.a, s.b, s.c, s.d + t1, s.e, s.f, s.g⟩

/-- The word of the schedule after the last sixteen, newest first. -/
def nextWord (recent : List UInt32) : UInt32 :=
  let w2 := recent.getD 1 0
  let w7 := recent.getD 6 0
  let w15 := recent.getD 14 0
  let w16 := recent.getD 15 0
  let s0 := rotate w15 7 ^^^ rotate w15 18 ^^^ (w15 >>> 3)
  let s1 := rotate w2 17 ^^^ rotate w2 19 ^^^ (w2 >>> 10)
  w16 + s0 + w7 + s1

/-- A schedule, newest word first, with further words after it. -/
def extend (recent : List UInt32) : Nat → List UInt32
  | 0 => recent
  | n + 1 => extend (nextWord recent :: recent) n

/-- The state after a block of sixteen words. -/
def Words.compress (s : Words) (block : List UInt32) : Words :=
  let schedule := (extend block.reverse 48).reverse
  let t := (schedule.zip roundConstants).foldl (fun t wk => t.round wk.1 wk.2) s
  ⟨s.a + t.a, s.b + t.b, s.c + t.c, s.d + t.d, s.e + t.e, s.f + t.f, s.g + t.g, s.h + t.h⟩

/-- The last `n` bytes of a number, most significant first. -/
def bytesOf (n value : Nat) : List UInt8 :=
  (List.range n).reverse.map fun i => .ofNat (value >>> (8 * i) % 256)

/-- A message with the mark, the zeros and the length that fill up its last block. -/
def pad (message : List UInt8) : List UInt8 :=
  let zeros := (55 + 64 - message.length % 64) % 64
  message ++ 0x80 :: (List.replicate zeros 0 ++ bytesOf 8 (8 * message.length))

/-- Bytes in groups of four as words. -/
def words : List UInt8 → List UInt32
  | a :: b :: c :: d :: rest =>
    ((a.toUInt32 <<< 24) ||| (b.toUInt32 <<< 16) ||| (c.toUInt32 <<< 8) ||| d.toUInt32) ::
      words rest
  | _ => []

/-- The state after a number of blocks. -/
def digestBlocks (s : Words) : Nat → List UInt32 → Words
  | 0, _ => s
  | n + 1, ws => digestBlocks (s.compress (ws.take 16)) n (ws.drop 16)

/-- The state after a whole message. -/
def digest (message : List UInt8) : Words :=
  let ws := words (pad message)
  digestBlocks .initial (ws.length / 16) ws

/-- The fingerprint of a token: the first twelve digits of its digest. -/
def ofToken (token : String) : String :=
  let s := digest token.toUTF8.toList
  String.ofList ((bytesOf 4 s.a.toNat ++ bytesOf 2 (s.b.toNat / 65536)).flatMap Text.hexDigits)

end ClusterRegistry.Fingerprint
