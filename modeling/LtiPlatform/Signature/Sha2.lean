import LtiPlatform.Signature.Bytes

namespace LtiPlatform.Sha2

def isPrime (n : Nat) : Bool := 2 ≤ n && (List.range n).all fun d => d < 2 || n % d != 0

def primes : List Nat := (List.range 410).filter isPrime

/-- The integer part of a root, found bit by bit from the highest. -/
def integerRoot (degree n : Nat) : Nat :=
  ((List.range (n.log2 / degree + 1)).reverse).foldl (fun root bit =>
    let next := root + Nat.pow 2 bit
    if Nat.pow next degree ≤ n then next else root) 0

/-- The first `w` fraction bits of a root. -/
def rootFraction (w degree n : Nat) : BitVec w :=
  .ofNat w (integerRoot degree (n * Nat.pow 2 (degree * w)))

/-- A hash function over words of `w` bits. Its constants are the leading fraction bits of cube roots of the first
primes. -/
structure Family (w : Nat) where
  rounds : Nat
  upper0 : Nat × Nat × Nat
  upper1 : Nat × Nat × Nat
  lower0 : Nat × Nat × Nat
  lower1 : Nat × Nat × Nat
  constants : Array (BitVec w)

def family32 : Family 32 where
  rounds := 64
  upper0 := (2, 13, 22)
  upper1 := (6, 11, 25)
  lower0 := (7, 18, 3)
  lower1 := (17, 19, 10)
  constants := ((primes.take 64).map (rootFraction 32 3)).toArray

def family64 : Family 64 where
  rounds := 80
  upper0 := (28, 34, 39)
  upper1 := (14, 18, 41)
  lower0 := (1, 8, 7)
  lower1 := (19, 61, 6)
  constants := ((primes.take 80).map (rootFraction 64 3)).toArray

variable {w : Nat}

def rotations (amounts : Nat × Nat × Nat) (x : BitVec w) : BitVec w :=
  x.rotateRight amounts.1 ^^^ x.rotateRight amounts.2.1 ^^^ x.rotateRight amounts.2.2

def rotationsAndShift (amounts : Nat × Nat × Nat) (x : BitVec w) : BitVec w :=
  x.rotateRight amounts.1 ^^^ x.rotateRight amounts.2.1 ^^^ (x >>> amounts.2.2)

/-- The message words of a block, extended to one word a round. -/
def schedule (family : Family w) (block : Array (BitVec w)) : Array (BitVec w) :=
  (List.range (family.rounds - 16)).foldl (fun words step =>
    let t := step + 16
    let word := rotationsAndShift family.lower1 words[t - 2]! + words[t - 7]! +
      rotationsAndShift family.lower0 words[t - 15]! + words[t - 16]!
    words.push word) block

structure State (w : Nat) where
  a : BitVec w
  b : BitVec w
  c : BitVec w
  d : BitVec w
  e : BitVec w
  f : BitVec w
  g : BitVec w
  h : BitVec w

def State.add (x y : State w) : State w :=
  ⟨x.a + y.a, x.b + y.b, x.c + y.c, x.d + y.d, x.e + y.e, x.f + y.f, x.g + y.g, x.h + y.h⟩

def State.ofRoots (primes : List Nat) : State w :=
  let root (i : Nat) := rootFraction w 2 (primes.getD i 2)
  ⟨root 0, root 1, root 2, root 3, root 4, root 5, root 6, root 7⟩

def State.words (x : State w) : List (BitVec w) := [x.a, x.b, x.c, x.d, x.e, x.f, x.g, x.h]

def round (family : Family w) (words : Array (BitVec w)) (s : State w) (t : Nat) : State w :=
  let choice := (s.e &&& s.f) ^^^ (~~~ s.e &&& s.g)
  let majority := (s.a &&& s.b) ^^^ (s.a &&& s.c) ^^^ (s.b &&& s.c)
  let first := s.h + rotations family.upper1 s.e + choice + family.constants[t]! + words[t]!
  let second := rotations family.upper0 s.a + majority
  ⟨first + second, s.a, s.b, s.c, s.d + first, s.e, s.f, s.g⟩

def compress (family : Family w) (s : State w) (block : Array (BitVec w)) : State w :=
  s.add ((List.range family.rounds).foldl (round family (schedule family block)) s)

/-- The message with a one bit, zeros and its length in bits, up to a multiple of the block size. -/
def pad (blockBytes : Nat) (message : Bytes) : Bytes :=
  let lengthBytes := blockBytes / 8
  let used := (message.length + 1 + lengthBytes) % blockBytes
  let zeros := (blockBytes - used) % blockBytes
  message ++ 0x80 :: List.replicate zeros 0 ++ Bytes.ofNat lengthBytes (8 * message.length)

/-- Pieces of a fixed size, the last of which may be shorter. -/
def chunks (size : Nat) (bytes : Bytes) : List Bytes :=
  (List.range ((bytes.length + size - 1) / size)).map fun i => (bytes.drop (i * size)).take size

def hash (family : Family w) (start : State w) (message : Bytes) : Bytes :=
  let wordBytes := w / 8
  let blocks := chunks (16 * wordBytes) (pad (16 * wordBytes) message)
  let final := blocks.foldl (fun s block =>
    compress family s ((chunks wordBytes block).map fun word => .ofNat w (Bytes.toNat word)).toArray)
    start
  final.words.flatMap fun word => Bytes.ofNat wordBytes word.toNat

def start256 : State 32 := .ofRoots (primes.take 8)

def start384 : State 64 := .ofRoots ((primes.drop 8).take 8)

def start512 : State 64 := .ofRoots (primes.take 8)

def sha256 (message : Bytes) : Bytes := hash family32 start256 message

def sha384 (message : Bytes) : Bytes := (hash family64 start384 message).take 48

def sha512 (message : Bytes) : Bytes := hash family64 start512 message

/-- Keyed hashing with SHA-256. -/
def hmac256 (key message : Bytes) : Bytes :=
  let key := if 64 < key.length then sha256 key else key
  let padded := key ++ List.replicate (64 - key.length) 0
  sha256 (padded.map (· ^^^ 0x5c) ++ sha256 (padded.map (· ^^^ 0x36) ++ message))

end LtiPlatform.Sha2
