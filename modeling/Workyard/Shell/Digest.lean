/-
**Digests.**

A digest of a text is made by mixing its blocks into a few words, one after another. The numbers that are
mixed in are the first bits behind the point of roots of primes.

* `sha2`: digests of several lengths;
* `sha1`, `md5`: older digests;
* `cyclicCheck`, `rotatingCheck`: short checks.
-/

import Workyard.Shell.Octets

namespace Workyard.Shell.Digest

/-- The number of the digits of a base, of which the first counts most. -/
def wordOf (octets : List Nat) : Nat := octets.foldl (fun value octet => value * 256 + octet) 0

/-- The octets of a number, of which the first counts most. -/
def octetsOf : Nat → Nat → List Nat
  | 0, _ => []
  | count + 1, value => octetsOf count (value / 256) ++ [value % 256]

/-- Parts of a list, so many long. -/
def groupsOf (size : Nat) : Nat → List Nat → List (List Nat)
  | 0, _ => []
  | _, [] => []
  | fuel + 1, list => list.take size :: groupsOf size fuel (list.drop size)

/-- A text made longer so that its blocks are full: a bit, zeros, and the number of bits in so many octets. -/
def padded (block room : Nat) (little : Bool) (text : List Nat) : List Nat :=
  let zeros := (2 * block - (text.length + 1 + room) % block) % block
  let size := octetsOf room (8 * text.length)
  text ++ 128 :: List.replicate zeros 0 ++ (if little then size.reverse else size)

/-- The greatest number of which a power is not above a value, from bits down. -/
def rootFrom (power value : Nat) : Nat → Nat → Nat
  | 0, root => root
  | bit + 1, root =>
    let next := root + Nat.pow 2 bit
    rootFrom power value bit (if Nat.pow next power ≤ value then next else root)

/-- The first bits behind the point of the root of a number. -/
def rootBits (power bits number : Nat) : Nat :=
  rootFrom power (number * Nat.pow 2 (power * bits)) (bits + 10) 0 % Nat.pow 2 bits

/-- The primes below a number. -/
def primesBelow (limit : Nat) : List Nat :=
  (List.range limit).filter fun number => 2 ≤ number &&
    (List.range number).all fun divisor => divisor < 2 || number % divisor ≠ 0

/-- The first eighty primes. -/
def primes : List Nat := primesBelow 410

/-- A word turned to the left. -/
def turned (bits value count : Nat) : Nat :=
  ((value <<< count) ||| (value >>> (bits - count))) % Nat.pow 2 bits

/-- A word turned to the right. -/
def turnedBack (bits value count : Nat) : Nat := turned bits value (bits - count)

/-! ### Several lengths -/

/-- A kind of digest by the bits of its words: by how much they are turned. -/
structure Mixing where
  bits : Nat
  rounds : Nat
  /-- For the words of the schedule: two turns and a shift each. -/
  early : Nat × Nat × Nat
  late : Nat × Nat × Nat
  /-- For the words that are mixed: three turns each. -/
  first : Nat × Nat × Nat
  fifth : Nat × Nat × Nat
  constants : Array Nat

/-- The mixing of words of 32 bits. -/
def mixing32 : Mixing where
  bits := 32
  rounds := 64
  early := (7, 18, 3)
  late := (17, 19, 10)
  first := (2, 13, 22)
  fifth := (6, 11, 25)
  constants := ((primes.take 64).map (rootBits 3 32)).toArray

/-- The mixing of words of 64 bits. -/
def mixing64 : Mixing where
  bits := 64
  rounds := 80
  early := (1, 8, 7)
  late := (19, 61, 6)
  first := (28, 34, 39)
  fifth := (14, 18, 41)
  constants := ((primes.take 80).map (rootBits 3 64)).toArray

/-- The words that are mixed in for a block. -/
def schedule (mixing : Mixing) (block : List Nat) : Array Nat :=
  let bits := mixing.bits
  let small (turns : Nat × Nat × Nat) (value : Nat) : Nat :=
    turnedBack bits value turns.1 ^^^ turnedBack bits value turns.2.1 ^^^ (value >>> turns.2.2)
  let start := ((groupsOf (bits / 8) 16 block).map wordOf).toArray
  (List.range (mixing.rounds - 16)).foldl (fun words index =>
    let word (place : Nat) : Nat := words.getD place 0
    words.push ((word index + small mixing.early (word (index + 1)) + word (index + 9) +
      small mixing.late (word (index + 14))) % Nat.pow 2 bits)) start

/-- Mixes a block into words. -/
def mixed (mixing : Mixing) (state : List Nat) (block : List Nat) : List Nat :=
  let bits := mixing.bits
  let size := Nat.pow 2 bits
  let words := schedule mixing block
  let big (turns : Nat × Nat × Nat) (value : Nat) : Nat :=
    turnedBack bits value turns.1 ^^^ turnedBack bits value turns.2.1 ^^^ turnedBack bits value turns.2.2
  let after := (List.range mixing.rounds).foldl (fun state index =>
    match state with
    | [a, b, c, d, e, f, g, h] =>
      let choice := (e &&& f) ^^^ ((size - 1 - e) &&& g)
      let one := (h + big mixing.fifth e + choice + mixing.constants.getD index 0 + words.getD index 0) % size
      let majority := (a &&& b) ^^^ (a &&& c) ^^^ (b &&& c)
      let two := (big mixing.first a + majority) % size
      [(one + two) % size, a, b, c, (d + one) % size, e, f, g]
    | other => other) state
  (state.zip after).map fun (before, after) => (before + after) % size

/-- The digest of a text in so many bits. -/
def sha2 (length : Nat) (text : List Nat) : List Nat :=
  let (mixing, start) := match length with
    | 224 => (mixing32, ((primes.drop 8).take 8).map fun prime => rootBits 2 64 prime % Nat.pow 2 32)
    | 256 => (mixing32, (primes.take 8).map (rootBits 2 32))
    | 384 => (mixing64, ((primes.drop 8).take 8).map (rootBits 2 64))
    | _ => (mixing64, (primes.take 8).map (rootBits 2 64))
  let block := mixing.bits * 2
  let full := padded block (mixing.bits / 4) false text
  let state := (groupsOf block (full.length + 1) full).foldl (mixed mixing) start
  (state.flatMap (octetsOf (mixing.bits / 8))).take (length / 8)

/-! ### Older digests -/

/-- The digest of a text in 160 bits. -/
def sha1 (text : List Nat) : List Nat :=
  let full := padded 64 8 false text
  let state := (groupsOf 64 (full.length + 1) full).foldl (fun state block =>
    let start := ((groupsOf 4 16 block).map wordOf).toArray
    let words := (List.range 64).foldl (fun (words : Array Nat) index =>
      let word (place : Nat) : Nat := words.getD place 0
      words.push (turned 32 (word (index + 13) ^^^ word (index + 8) ^^^ word (index + 2) ^^^ word index) 1)) start
    let after := (List.range 80).foldl (fun state index =>
      match state with
      | [a, b, c, d, e] =>
        let (choice, constant) :=
          if index < 20 then ((b &&& c) ||| ((Nat.pow 2 32 - 1 - b) &&& d), 0x5a827999)
          else if index < 40 then (b ^^^ c ^^^ d, 0x6ed9eba1)
          else if index < 60 then ((b &&& c) ||| (b &&& d) ||| (c &&& d), 0x8f1bbcdc)
          else (b ^^^ c ^^^ d, 0xca62c1d6)
        [(turned 32 a 5 + choice + e + constant + words.getD index 0) % Nat.pow 2 32, a, turned 32 b 30, c, d]
      | other => other) state
    (state.zip after).map fun (before, after) => (before + after) % Nat.pow 2 32)
    [0x67452301, 0xefcdab89, 0x98badcfe, 0x10325476, 0xc3d2e1f0]
  state.flatMap (octetsOf 4)

/-- The first 32 bits behind the point of the sines of one to sixty-four. -/
def sineBits : Array Nat := #[
  0xd76aa478, 0xe8c7b756, 0x242070db, 0xc1bdceee, 0xf57c0faf, 0x4787c62a, 0xa8304613, 0xfd469501,
  0x698098d8, 0x8b44f7af, 0xffff5bb1, 0x895cd7be, 0x6b901122, 0xfd987193, 0xa679438e, 0x49b40821,
  0xf61e2562, 0xc040b340, 0x265e5a51, 0xe9b6c7aa, 0xd62f105d, 0x02441453, 0xd8a1e681, 0xe7d3fbc8,
  0x21e1cde6, 0xc33707d6, 0xf4d50d87, 0x455a14ed, 0xa9e3e905, 0xfcefa3f8, 0x676f02d9, 0x8d2a4c8a,
  0xfffa3942, 0x8771f681, 0x6d9d6122, 0xfde5380c, 0xa4beea44, 0x4bdecfa9, 0xf6bb4b60, 0xbebfbc70,
  0x289b7ec6, 0xeaa127fa, 0xd4ef3085, 0x04881d05, 0xd9d4d039, 0xe6db99e5, 0x1fa27cf8, 0xc4ac5665,
  0xf4292244, 0x432aff97, 0xab9423a7, 0xfc93a039, 0x655b59c3, 0x8f0ccc92, 0xffeff47d, 0x85845dd1,
  0x6fa87e4f, 0xfe2ce6e0, 0xa3014314, 0x4e0811a1, 0xf7537e82, 0xbd3af235, 0x2ad7d2bb, 0xeb86d391]

/-- By how much words are turned in the four rounds. -/
def turnCounts : Array Nat := #[7, 12, 17, 22, 5, 9, 14, 20, 4, 11, 16, 23, 6, 10, 15, 21]

/-- The digest of a text in 128 bits. -/
def md5 (text : List Nat) : List Nat :=
  let full := padded 64 8 true text
  let flipped (value : Nat) : Nat := Nat.pow 2 32 - 1 - value
  let state := (groupsOf 64 (full.length + 1) full).foldl (fun state block =>
    let words := ((groupsOf 4 16 block).map fun group => wordOf group.reverse).toArray
    let after := (List.range 64).foldl (fun state index =>
      match state with
      | [a, b, c, d] =>
        let round := index / 16
        let (choice, place) :=
          if round = 0 then ((b &&& c) ||| (flipped b &&& d), index)
          else if round = 1 then ((d &&& b) ||| (flipped d &&& c), (5 * index + 1) % 16)
          else if round = 2 then (b ^^^ c ^^^ d, (3 * index + 5) % 16)
          else (c ^^^ (b ||| flipped d), 7 * index % 16)
        let sum := (choice + a + sineBits.getD index 0 + words.getD place 0) % Nat.pow 2 32
        [d, (b + turned 32 sum (turnCounts.getD (round * 4 + index % 4) 0)) % Nat.pow 2 32, b, c]
      | other => other) state
    (state.zip after).map fun (before, after) => (before + after) % Nat.pow 2 32)
    [0x67452301, 0xefcdab89, 0x98badcfe, 0x10325476]
  state.flatMap fun word => (octetsOf 4 word).reverse

/-! ### Short checks -/

/-- Goes on with a cyclic check by an octet. -/
def cyclicStep (check octet : Nat) : Nat :=
  (List.range 8).foldl (fun check _ =>
    if check < Nat.pow 2 31 then check * 2 else (check * 2 % Nat.pow 2 32) ^^^ 0x04c11db7) (check ^^^ (octet <<< 24))

/-- The octets of a length without the zeros in front, the last first. -/
def lengthOctets : Nat → Nat → List Nat
  | 0, _ => []
  | fuel + 1, length => if length = 0 then [] else length % 256 :: lengthOctets fuel (length / 256)

/-- The cyclic check of a text and its length. -/
def cyclicCheck (text : List Nat) : Nat :=
  Nat.pow 2 32 - 1 - (lengthOctets 16 text.length).foldl cyclicStep (text.foldl cyclicStep 0)

/-- The sum of octets that is turned by a bit in front of each. -/
def rotatingCheck (text : List Nat) : Nat :=
  text.foldl (fun sum octet => ((sum >>> 1) + (sum % 2) * 32768 + octet) % 65536) 0

end Workyard.Shell.Digest
