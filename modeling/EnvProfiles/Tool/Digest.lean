import EnvProfiles.Tool.Files

/-!
# Digests

Numbers that are reckoned from all octets of a file, so that files with the same
number hardly ever differ. They are all made block by block: a text is filled up
to whole blocks, with its length at the end, and every block is stirred into the
state.

## Main definitions

* `Digest.md5`, `Digest.sha1`, `Digest.sha256`, `Digest.sha512`: The digests.
* `Digest.crc`: A sum of the remainders of a division.
* `Tool.digest`: Shows the digests of files, or checks them.
-/

namespace EnvProfiles

namespace Digest

/-- A number of `width` bits turned to the left. -/
def turnLeft (width n k : Nat) : Nat :=
  ((n <<< k) ||| (n >>> (width - k))) % twoTo width

/-- A number of `width` bits turned to the right. -/
def turnRight (width n k : Nat) : Nat := turnLeft width n (width - k)

/-- The other bits of a number. -/
def negate (width n : Nat) : Nat := twoTo width - 1 - n % twoTo width

/-- A number as so many octets, the greatest first. -/
def bigEndian : Nat → Nat → List Nat
  | 0, _ => []
  | k + 1, n => bigEndian k (n / 256) ++ [n % 256]

/-- A number as so many octets, the smallest first. -/
def littleEndian : Nat → Nat → List Nat
  | 0, _ => []
  | k + 1, n => n % 256 :: littleEndian k (n / 256)

/-- The number that octets stand for, the greatest first. -/
def ofBigEndian (octets : List Nat) : Nat := octets.foldl (fun n b => n * 256 + b) 0

/-- The number that octets stand for, the smallest first. -/
def ofLittleEndian (octets : List Nat) : Nat := ofBigEndian octets.reverse

/-- Pieces of a length. The bound is on how many there are. -/
def pieces (size : Nat) : Nat → List Nat → List (List Nat)
  | 0, _ => []
  | n + 1, octets =>
    if octets.isEmpty then [] else octets.take size :: pieces size n (octets.drop size)

/-- A text filled up to whole blocks, with its length in bits at the end. -/
def filled (block field : Nat) (big : Bool) (octets : List Nat) : List Nat :=
  let n := octets.length
  let zeros := (2 * block - 1 - field - n % block) % block
  let length := if big then bigEndian field (n * 8) else littleEndian field (n * 8)
  octets ++ 0x80 :: List.replicate zeros 0 ++ length

/-- The blocks of a text as rows of words. -/
def blocks (block word field : Nat) (big : Bool) (octets : List Nat) : List (Array Nat) :=
  let all := filled block field big octets
  (pieces block (all.length + 1) all).map fun b =>
    let number := if big then ofBigEndian else ofLittleEndian
    ((pieces word (block + 1) b).map number).toArray

/-- The first primes. -/
def primes (count : Nat) : List Nat :=
  ((List.range 420).filter fun n => 2 ≤ n && (List.range n).all fun d => d < 2 || n % d != 0).take
    count

/-- The whole part of a root, found between two bounds. -/
def rootBetween (power n : Nat) : Nat → Nat → Nat → Nat
  | 0, low, _ => low
  | k + 1, low, high =>
    if high ≤ low + 1 then low
    else
      let middle := (low + high) / 2
      if Nat.pow middle power ≤ n then rootBetween power n k middle high
      else rootBetween power n k low middle

/-- The first bits after the point of a root of a number. -/
def rootBits (power bits n : Nat) : Nat :=
  rootBetween power (n * twoTo (bits * power)) (bits + 16) 0 (twoTo (bits + 10)) % twoTo bits

/-- Numbers in hexadecimal digits. -/
def hexText (octets : List Nat) : String :=
  String.ofList (octets.flatMap fun b =>
    [(Nat.digitChar (b / 16)), Nat.digitChar (b % 16)])

/-! ### The digests -/

/-- How far words are turned, round by round. -/
def md5Turns : List Nat :=
  [7, 12, 17, 22, 5, 9, 14, 20, 4, 11, 16, 23, 6, 10, 15, 21]

/-- The numbers that are added: parts of sines, as they are given with the method. -/
def md5Sines : Array Nat := #[
  0xd76aa478, 0xe8c7b756, 0x242070db, 0xc1bdceee, 0xf57c0faf, 0x4787c62a, 0xa8304613, 0xfd469501,
  0x698098d8, 0x8b44f7af, 0xffff5bb1, 0x895cd7be, 0x6b901122, 0xfd987193, 0xa679438e, 0x49b40821,
  0xf61e2562, 0xc040b340, 0x265e5a51, 0xe9b6c7aa, 0xd62f105d, 0x02441453, 0xd8a1e681, 0xe7d3fbc8,
  0x21e1cde6, 0xc33707d6, 0xf4d50d87, 0x455a14ed, 0xa9e3e905, 0xfcefa3f8, 0x676f02d9, 0x8d2a4c8a,
  0xfffa3942, 0x8771f681, 0x6d9d6122, 0xfde5380c, 0xa4beea44, 0x4bdecfa9, 0xf6bb4b60, 0xbebfbc70,
  0x289b7ec6, 0xeaa127fa, 0xd4ef3085, 0x04881d05, 0xd9d4d039, 0xe6db99e5, 0x1fa27cf8, 0xc4ac5665,
  0xf4292244, 0x432aff97, 0xab9423a7, 0xfc93a039, 0x655b59c3, 0x8f0ccc92, 0xffeff47d, 0x85845dd1,
  0x6fa87e4f, 0xfe2ce6e0, 0xa3014314, 0x4e0811a1, 0xf7537e82, 0xbd3af235, 0x2ad7d2bb, 0xeb86d391]

/-- The digest of sixteen octets. -/
def md5 (octets : List Nat) : String :=
  let m := twoTo 32
  let start := (0x67452301, 0xefcdab89, 0x98badcfe, 0x10325476)
  let (a, b, c, d) := (blocks 64 4 8 false octets).foldl (fun (s : Nat × Nat × Nat × Nat) words =>
    let (a, b, c, d) := (List.range 64).foldl (fun (s : Nat × Nat × Nat × Nat) i =>
      let (a, b, c, d) := s
      let (f, g) := match i / 16 with
        | 0 => ((b &&& c) ||| (negate 32 b &&& d), i)
        | 1 => ((d &&& b) ||| (negate 32 d &&& c), (5 * i + 1) % 16)
        | 2 => (b ^^^ c ^^^ d, (3 * i + 5) % 16)
        | _ => (c ^^^ (b ||| negate 32 d), 7 * i % 16)
      let sum := (f + a + md5Sines.getD i 0 + words.getD g 0) % m
      let turn := md5Turns.getD (i / 16 * 4 + i % 4) 0
      (d, (b + turnLeft 32 sum turn) % m, b, c)) s
    ((s.1 + a) % m, (s.2.1 + b) % m, (s.2.2.1 + c) % m, (s.2.2.2 + d) % m)) start
  hexText ([a, b, c, d].flatMap (littleEndian 4))

/-- The digest of twenty octets. -/
def sha1 (octets : List Nat) : String :=
  let m := twoTo 32
  let start := #[0x67452301, 0xefcdab89, 0x98badcfe, 0x10325476, 0xc3d2e1f0]
  let out := (blocks 64 4 8 true octets).foldl (fun (s : Array Nat) words =>
    let w := (List.range 64).foldl (fun (w : Array Nat) i =>
      let g (k : Nat) : Nat := w.getD (i + 16 - k) 0
      w.push (turnLeft 32 (g 3 ^^^ g 8 ^^^ g 14 ^^^ g 16) 1)) words
    let r := (List.range 80).foldl (fun (r : Array Nat) i =>
      let g (k : Nat) : Nat := r.getD k 0
      let (f, k) := match i / 20 with
        | 0 => ((g 1 &&& g 2) ||| (negate 32 (g 1) &&& g 3), 0x5a827999)
        | 1 => (g 1 ^^^ g 2 ^^^ g 3, 0x6ed9eba1)
        | 2 => ((g 1 &&& g 2) ||| (g 1 &&& g 3) ||| (g 2 &&& g 3), 0x8f1bbcdc)
        | _ => (g 1 ^^^ g 2 ^^^ g 3, 0xca62c1d6)
      let sum := (turnLeft 32 (g 0) 5 + f + g 4 + k + w.getD i 0) % m
      #[sum, g 0, turnLeft 32 (g 1) 30, g 2, g 3]) s
    (s.zip r).map fun (a, b) => (a + b) % m) start
  hexText (out.toList.flatMap (bigEndian 4))

/-- What tells the digests of one family apart: the width of words, the rounds, how far words are
turned. -/
structure Family where
  width : Nat
  rounds : Nat
  /-- How far words of the block are turned and moved. -/
  first : Nat × Nat × Nat
  second : Nat × Nat × Nat
  /-- How far words of the state are turned. -/
  upper : Nat × Nat × Nat
  lower : Nat × Nat × Nat

def family256 : Family :=
  ⟨32, 64, (7, 18, 3), (17, 19, 10), (2, 13, 22), (6, 11, 25)⟩

def family512 : Family :=
  ⟨64, 80, (1, 8, 7), (19, 61, 6), (28, 34, 39), (14, 18, 41)⟩

/-- A digest of a family from a state, of which so many octets are shown. -/
def sha2 (f : Family) (start : Array Nat) (size : Nat) (octets : List Nat) : String :=
  let m := twoTo f.width
  let constants := ((primes f.rounds).map (rootBits 3 f.width)).toArray
  let word := f.width / 8
  let out := (blocks (16 * word) word (2 * word) true octets).foldl (fun (s : Array Nat) words =>
    let moved (t : Nat × Nat × Nat) (x : Nat) : Nat :=
      turnRight f.width x t.1 ^^^ turnRight f.width x t.2.1 ^^^ (x >>> t.2.2)
    let turned (t : Nat × Nat × Nat) (x : Nat) : Nat :=
      turnRight f.width x t.1 ^^^ turnRight f.width x t.2.1 ^^^ turnRight f.width x t.2.2
    let w := (List.range (f.rounds - 16)).foldl (fun (w : Array Nat) i =>
      let g (k : Nat) : Nat := w.getD (i + 16 - k) 0
      w.push ((g 16 + moved f.first (g 15) + g 7 + moved f.second (g 2)) % m)) words
    let r := (List.range f.rounds).foldl (fun (r : Array Nat) i =>
      let g (k : Nat) : Nat := r.getD k 0
      let choice := (g 4 &&& g 5) ^^^ (negate f.width (g 4) &&& g 6)
      let t1 := (g 7 + turned f.lower (g 4) + choice + constants.getD i 0 + w.getD i 0) % m
      let majority := (g 0 &&& g 1) ^^^ (g 0 &&& g 2) ^^^ (g 1 &&& g 2)
      let t2 := (turned f.upper (g 0) + majority) % m
      #[(t1 + t2) % m, g 0, g 1, g 2, (g 3 + t1) % m, g 4, g 5, g 6]) s
    (s.zip r).map fun (a, b) => (a + b) % m) start
  hexText ((out.toList.flatMap (bigEndian word)).take size)

/-- The roots of primes from which a digest starts. -/
def rootState (bits skip : Nat) : Array Nat :=
  (((primes (skip + 8)).drop skip).map (rootBits 2 bits)).toArray

def sha256 (octets : List Nat) : String := sha2 family256 (rootState 32 0) 32 octets

/-- The digest that starts from the second half of the bits of other roots. -/
def sha224 (octets : List Nat) : String :=
  sha2 family256 ((rootState 64 8).map (· % twoTo 32)) 28 octets

def sha512 (octets : List Nat) : String := sha2 family512 (rootState 64 0) 64 octets

def sha384 (octets : List Nat) : String := sha2 family512 (rootState 64 8) 48 octets

/-- The remainder of octets in the division of polynomials, with the length after them. -/
def crc (octets : List Nat) : Nat :=
  let step (c b : Nat) : Nat :=
    (List.range 8).foldl (fun c _ =>
      if c &&& 0x80000000 != 0 then (c * 2 % twoTo 32) ^^^ 0x04c11db7 else c * 2 % twoTo 32)
      (c ^^^ (b * twoTo 24))
  let rec lengthOctets : Nat → Nat → List Nat
    | 0, _ => []
    | k + 1, n => if n == 0 then [] else n % 256 :: lengthOctets k (n / 256)
  negate 32 ((octets ++ lengthOctets 9 octets.length).foldl step 0)

/-- The digests by the names of the programs. -/
def table : List (String × (List Nat → String)) :=
  [("md5sum", md5), ("sha1sum", sha1), ("sha224sum", sha224), ("sha256sum", sha256),
    ("sha384sum", sha384), ("sha512sum", sha512)]

end Digest

namespace Tool

/-- The octets of a text as numbers. -/
def numbersOf (text : String) : List Nat := text.toList.map Char.toNat

/-- The name and the digest that a line of a list gives. -/
def listedDigest? (line : String) : Option (String × String) :=
  let hex := line.toList.takeWhile Escape.isHex
  match line.toList.drop hex.length with
  | ' ' :: ' ' :: name => some (String.ofList hex, String.ofList name)
  | ' ' :: '*' :: name => some (String.ofList hex, String.ofList name)
  | _ => none

/-- Shows the digests of files, or checks those in lists of them. -/
def digest (make : List Nat → String) (j : Job) : Job :=
  j.withOptions 1 ⟨"bctwz", [("binary", "b"), ("check", "c"), ("text", "t"), ("tag", "tag"),
    ("warn", "w"), ("zero", "z"), ("quiet", "quiet"), ("status", "status"), ("strict", "strict"),
    ("ignore-missing", "ignore-missing")], false⟩ fun j given paths =>
    let has := Options.has given
    if has "c" then
      j.forEachInput paths fun j _ text =>
        let entries := (Lines.split '\n' text).filterMap listedDigest?
        let (j, failed, unread) := entries.foldl (fun (j, failed, unread) (hex, name) =>
          match j.read name with
          | (.error refusal, j) =>
            if has "ignore-missing" then (j, failed, unread)
            else
              let j := j.refuse name refusal 1
              (if has "status" then j else j.write (name ++ ": FAILED open or read\n"), failed,
                unread + 1)
          | (.ok content, j) =>
            if make (numbersOf content) == hex.map Char.toLower then
              let silent := has "status" || has "quiet"
              (if silent then j else j.write (name ++ ": OK\n"), failed, unread)
            else
              ((if has "status" then j else j.write (name ++ ": FAILED\n")).fail 1, failed + 1,
                unread)) (j, 0, 0)
        let warn (j : Job) (n : Nat) (one many : String) : Job :=
          if n == 0 || has "status" then j
          else j.complain ("WARNING: " ++ toString n ++ " " ++ (if n == 1 then one else many))
        let j := warn j unread "listed file could not be read" "listed files could not be read"
        warn j failed "computed checksum did NOT match" "computed checksums did NOT match"
    else
      let kind := match j.call.name with
        | name => ((baseName name).map Char.toUpper)
      j.forEachInput paths fun j path text =>
        let hex := make (numbersOf text)
        if has "tag" then
          j.write (takeText (kind.length - 3) kind ++ " (" ++ path ++ ") = " ++ hex ++ "\n")
        else j.write (hex ++ " " ++ (if has "b" then "*" else " ") ++ path ++
          (if has "z" then "\x00" else "\n"))

/-- `sum`: shows short sums and the sizes of files in blocks. -/
def sum (j : Job) : Job :=
  j.withOptions 1 ⟨"rs", [("sysv", "s")], false⟩ fun j given paths =>
    j.forEachInput paths fun j path text =>
      let name := if paths.isEmpty then "" else " " ++ path
      let octets := numbersOf text
      let shown := if Options.last? given ["r", "s"] == some "s" then
          let total := octets.foldl (· + ·) 0 % 0x100000000
          let folded := total % 0x10000 + total / 0x10000
          let folded := folded % 0x10000 + folded / 0x10000
          toString folded ++ " " ++ toString ((octets.length + 511) / 512)
        else
          let turned := octets.foldl (fun c b => (c / 2 + c % 2 * 0x8000 + b) % 0x10000) 0
          let digits := toString turned
          String.ofList (List.replicate (5 - digits.length) '0') ++ digits ++ " " ++
            padLeft 5 (toString ((octets.length + 1023) / 1024))
      j.write (shown ++ name ++ "\n")

/-- `cksum`: shows the remainders and sizes of files. -/
def cksum (j : Job) : Job :=
  j.withOptions 1 ⟨"a:cb", [("algorithm", "a"), ("untagged", "untagged"), ("tag", "tag")], false⟩
    fun j _ paths =>
    j.forEachInput paths fun j path text =>
      let name := if paths.isEmpty then "" else " " ++ path
      let sum := toString (Digest.crc (numbersOf text))
      j.write (sum ++ " " ++ toString text.length ++ name ++ "\n")

end Tool

end EnvProfiles
