import EnvProfiles.Tool.Digest

/-!
# Dumps and Codes

Octets as numbers or characters in rows, and octets written with a few letters
only, so that they can be read back.

## Main definitions

* `Tool.od`: Shows octets in rows.
* `Tool.base64`, `Tool.base32`: Write octets with letters, and read them back.
-/

namespace EnvProfiles

namespace Dump

/-- How octets are shown: how many belong together, and as what. -/
inductive Shape where
  | named
  | char
  | whole (size base : Nat) (signed : Bool)
deriving DecidableEq, Repr

/-- How wide an item is, with the blanks before it. -/
def Shape.width : Shape → Nat
  | named => 4
  | char => 4
  | whole size 8 _ => (size * 8 + 2) / 3 + 1
  | whole size 16 _ => size * 2 + 1
  | whole size _ signed =>
    1 + (if signed then 1 else 0) + (toString (twoTo (8 * size - if signed then 1 else 0))).length

/-- How many octets an item stands for. -/
def Shape.size : Shape → Nat
  | whole size _ _ => size
  | _ => 1

/-- The names of characters that cannot be seen. -/
def names : List String :=
  ["nul", "soh", "stx", "etx", "eot", "enq", "ack", "bel", "bs", "ht", "nl", "vt", "ff", "cr", "so",
    "si", "dle", "dc1", "dc2", "dc3", "dc4", "nak", "syn", "etb", "can", "em", "sub", "esc", "fs",
    "gs", "rs", "us", "sp"]

/-- A number in digits with zeros before them. -/
def digits (base width n : Nat) : String :=
  let ds := Nat.toDigits base n
  String.ofList (List.replicate (width - ds.length) '0' ++ ds)

/-- An item, without the blanks before it. -/
def Shape.text (shape : Shape) (octets : List Nat) : String :=
  match shape with
  | named =>
    let n := octets.headD 0 % 128
    if n == 127 then "del" else (names[n]?).getD (String.singleton (Char.ofNat n))
  | char =>
    let n := octets.headD 0
    match n with
    | 0 => "\\0"
    | 7 => "\\a"
    | 8 => "\\b"
    | 9 => "\\t"
    | 10 => "\\n"
    | 11 => "\\v"
    | 12 => "\\f"
    | 13 => "\\r"
    | n => if 32 ≤ n && n < 127 then String.singleton (Char.ofNat n) else digits 8 3 n
  | whole size base signed =>
    let n := Digest.ofLittleEndian (octets ++ List.replicate (size - octets.length) 0)
    match base with
    | 8 => digits 8 ((size * 8 + 2) / 3) n
    | 16 => digits 16 (size * 2) n
    | _ =>
      if signed && twoTo (8 * size - 1) ≤ n then "-" ++ toString (twoTo (8 * size) - n)
      else toString n

/-- The shape that the text of an option asks for, and the rest of the text. -/
def shape? (cs : List Char) : Except String (Shape × List Char) :=
  let sized (base : Nat) (signed : Bool) (r : List Char) : Except String (Shape × List Char) :=
    match r with
    | 'C' :: r => .ok (.whole 1 base signed, r)
    | 'S' :: r => .ok (.whole 2 base signed, r)
    | 'I' :: r => .ok (.whole 4 base signed, r)
    | 'L' :: r => .ok (.whole 8 base signed, r)
    | r =>
      let ds := r.takeWhile Char.isDigit
      match (String.ofList ds).toNat? with
      | none => .ok (.whole 4 base signed, r)
      | some n =>
        if [1, 2, 4, 8].contains n then .ok (.whole n base signed, r.drop ds.length)
        else .error (";\nthis system doesn't provide a " ++ toString n ++ "-byte integral type")
  match cs with
  | 'a' :: r => .ok (.named, r)
  | 'c' :: r => .ok (.char, r)
  | 'd' :: r => sized 10 true r
  | 'o' :: r => sized 8 false r
  | 'u' :: r => sized 10 false r
  | 'x' :: r => sized 16 false r
  | _ => .error ""

/-- All shapes that the text of an option asks for, and whether the characters of a row follow each
of them. The bound is the length of the text. -/
def shapes? (whole : String) : Nat → List Char → Except String (List (Shape × Bool))
  | 0, _ => .ok []
  | _ + 1, [] => .ok []
  | n + 1, c :: r =>
    match shape? (c :: r) with
    | .error "" => .error ("invalid character " ++ Quote.always (String.singleton c) ++
        " in type string " ++ Quote.always whole)
    | .error reason => .error ("invalid type string " ++ Quote.always whole ++ reason)
    | .ok (s, r) =>
      let follows := r.head? == some 'z'
      (shapes? whole n (if follows then r.drop 1 else r)).map ((s, follows) :: ·)

/-- A row of items, given how many have room in a row and how many more columns they are to take
up together, which come before the items as evenly as possible. -/
def rowText (shape : Shape) (room extra : Nat) (row : List Nat) : String :=
  let items := Digest.pieces shape.size (row.length + 1) row
  String.join (items.zipIdx.map fun (item, k) =>
    let left := room - k
    padLeft (shape.width + (extra * left / room - extra * (left - 1) / room)) (shape.text item))

/-- The characters of a row, after blanks for the items that are missing from it. -/
def trailer (shape : Shape) (room extra : Nat) (row : List Nat) : String :=
  let missing := room - (row.length + shape.size - 1) / shape.size
  let blanks := missing * shape.width + extra * missing / room
  let letters := row.map fun n => if 32 ≤ n && n < 127 then Char.ofNat n else '.'
  String.ofList (List.replicate blanks ' ') ++ "  >" ++ String.ofList letters ++ "<"

/-- The address of a row. -/
def address (base : Char) (n : Nat) : String :=
  match base with
  | 'd' => digits 10 7 n
  | 'x' => digits 16 6 n
  | 'n' => ""
  | _ => digits 8 7 n

/-- Rows, of which those that are equal to the one before are left out. -/
def shown (shapes : List (Shape × Bool)) (base : Char) (all : Bool) (width start : Nat)
    (octets : List Nat) : String :=
  let columns (s : Shape) : Nat := s.width * (width / s.size)
  let widest := (shapes.map fun s => columns s.1).foldl max 0
  let rows := Digest.pieces width (octets.length + 1) octets
  let (out, _, place, _) := rows.foldl (fun (out, before, place, starred) row =>
    let next := place + row.length
    if !all && some row == before && row.length == width then
      (if starred then out else out ++ ["*\n"], before, next, true)
    else
      let lines := shapes.zipIdx.map fun ((s, follows), i) =>
        let room := width / s.size
        let extra := widest - columns s
        (if i == 0 then address base place
          else String.ofList (List.replicate (address base place).length ' ')) ++
          rowText s room extra row ++ (if follows then trailer s room extra row else "") ++ "\n"
      (out ++ lines, some row, next, false))
    (([] : List String), (none : Option (List Nat)), start, false)
  String.join out ++ (if base == 'n' then "" else address base place ++ "\n")

/-! ### Letters for octets -/

/-- How octets are written with letters: the letters, how many bits one stands for, and how many of
them belong together. -/
structure Code where
  letters : List Char
  bits : Nat
  group : Nat

def code64 : Code :=
  ⟨"ABCDEFGHIJKLMNOPQRSTUVWXYZabcdefghijklmnopqrstuvwxyz0123456789+/".toList, 6, 4⟩

def code32 : Code := ⟨"ABCDEFGHIJKLMNOPQRSTUVWXYZ234567".toList, 5, 8⟩

def code64Url : Code :=
  ⟨"ABCDEFGHIJKLMNOPQRSTUVWXYZabcdefghijklmnopqrstuvwxyz0123456789-_".toList, 6, 4⟩

def code32Hex : Code := ⟨"0123456789ABCDEFGHIJKLMNOPQRSTUV".toList, 5, 8⟩

def code16 : Code := ⟨"0123456789ABCDEF".toList, 4, 2⟩

/-- The letters for the octets of a group, filled up. -/
def Code.encodeGroup (c : Code) (octets : List Nat) : List Char :=
  let count := (octets.length * 8 + c.bits - 1) / c.bits
  let n := Digest.ofBigEndian octets * twoTo (count * c.bits - octets.length * 8)
  ((List.range count).map fun i =>
    c.letters.getD (n / twoTo (c.bits * (count - 1 - i)) % twoTo c.bits) 'A') ++
    List.replicate (c.group - count) '='

/-- The letters for octets. -/
def Code.encode (c : Code) (octets : List Nat) : List Char :=
  (Digest.pieces (c.group * c.bits / 8) (octets.length + 1) octets).flatMap c.encodeGroup

/-- The octets that letters stand for, and whether they could all be read. -/
def Code.decode (c : Code) (letters : List Char) : List Nat × Bool :=
  let groups := letters.foldl (fun (acc : List (List Char) × List Char) l =>
    let group := acc.2 ++ [l]
    if group.length == c.group then (acc.1 ++ [group], []) else (acc.1, group)) ([], [])
  let (octets, fine) := groups.1.foldl (fun (out, fine) group =>
    if !fine then (out, false)
    else
      let plain := group.takeWhile (· != '=')
      let values := plain.filterMap fun l => c.letters.idxOf? l
      if values.length < plain.length || (group.drop plain.length).any (· != '=') then (out, false)
      else
        let count := values.length * c.bits / 8
        let n := values.foldl (fun n v => n * twoTo c.bits + v) 0
        (out ++ Digest.bigEndian count (n / twoTo (values.length * c.bits - count * 8)), true))
    (([] : List Nat), true)
  let rest := groups.2.filterMap fun l => c.letters.idxOf? l
  let count := rest.length * c.bits / 8
  let n := rest.foldl (fun n v => n * twoTo c.bits + v) 0
  (octets ++ (if groups.2.isEmpty || !fine then []
    else Digest.bigEndian count (n / twoTo (rest.length * c.bits - count * 8))),
    fine && groups.2.isEmpty)

end Dump

namespace Tool

/-- The text of octets. -/
def textOfNumbers (octets : List Nat) : String := String.ofList (octets.map Char.ofNat)

/-- `od`: shows octets in rows. -/
def od (j : Job) : Job :=
  j.withOptions 1 ⟨"A:aBbcDdHhIij:LlN:OoS:st:vw::Xx", [("address-radix", "A"),
    ("skip-bytes", "j"), ("read-bytes", "N"), ("format", "t"), ("output-duplicates", "v"),
    ("width", "w::")], false⟩ fun j given paths =>
    let letters : List (String × Dump.Shape) :=
      [("a", .named), ("b", .whole 1 8 false), ("B", .whole 2 8 false), ("c", .char),
        ("D", .whole 4 10 false), ("d", .whole 2 10 false), ("H", .whole 4 16 false),
        ("h", .whole 2 16 false), ("I", .whole 8 10 true), ("i", .whole 4 10 true),
        ("L", .whole 8 10 true), ("l", .whole 8 10 true), ("O", .whole 4 8 false),
        ("o", .whole 2 8 false), ("s", .whole 2 10 true), ("X", .whole 4 16 false),
        ("x", .whole 2 16 false)]
    let radices := ["d", "o", "x", "n"]
    let asked := given.mapM fun (k, v) =>
      let text := v.getD ""
      if k == "t" then Dump.shapes? text (text.length + 1) text.toList
      else if k == "A" && !radices.contains (String.ofList (text.toList.take 1)) then
        .error ("invalid output address radix '" ++ String.ofList (text.toList.take 1) ++
          "'; it must be one character from [doxn]")
      else if ["j", "N", "w"].contains k && v.isSome && (count? text).isNone then
        .error ("invalid -" ++ k ++ " argument " ++ q text)
      else .ok (((letters.lookup k).toList).map fun s => (s, false))
    match asked with
    | .error message => failWith j message
    | .ok asked =>
      let shapes := if asked.flatten.isEmpty then [(.whole 2 8 false, false)] else asked.flatten
      let base := ((Options.value? given "A").bind fun t => t.toList.head?).getD 'o'
      let number (key : String) : Option Nat := (Options.value? given key).bind count?
      let least := (shapes.map fun s => s.1.size).foldl max 1
      let wanted := match given.reverse.find? (·.1 == "w") with
        | some (_, none) => 32
        | some (_, some t) => (count? t).getD 16
        | none => 16
      let fits := wanted != 0 && wanted % least == 0
      let width := if fits then wanted else least
      let j := if fits then j
        else j.complain ("warning: invalid width " ++ toString wanted ++ "; using " ++
          toString width ++ " instead")
      let files := if paths.isEmpty then ["-"] else paths
      let (texts, j) := files.foldl (fun (out, j) path =>
        match j.read path with
        | (.ok text, j) => (out ++ [text], j)
        | (.error .isDirectory, j) =>
          (out ++ [""], j.refuse (if path == "-" then "standard input" else path) .isDirectory 1)
        | (.error refusal, j) => (out, j.refuse path refusal 1)) (([] : List String), j)
      let skip := (number "j").getD 0
      let all := numbersOf (String.join texts)
      let octets := match number "N" with
        | some n => (all.drop skip).take n
        | none => all.drop skip
      if texts.isEmpty then j
      else if all.length < skip then failWith j "cannot skip past end of combined input"
      else j.write (Dump.shown shapes base (Options.has given "v") width skip octets)

/-- Lines of a width, or one line without an end if the width is zero. -/
def wrapped (width : Nat) (cs : List Char) : String :=
  if width == 0 then String.ofList cs
  else
    let rec go : Nat → List Char → List Char
      | 0, _ => []
      | n + 1, cs => if cs.isEmpty then [] else cs.take width ++ '\n' :: go n (cs.drop width)
    String.ofList (go (cs.length + 1) cs)

/-- Writes octets with letters, or reads them back. -/
def coded (code : Dump.Code) (j : Job) : Job :=
  j.withOptions 1 ⟨"diw:", [("decode", "d"), ("ignore-garbage", "i"), ("wrap", "w")], false⟩
    fun j given paths =>
    match paths with
    | _ :: extra :: _ => j.extraOperand extra 1
    | paths =>
      let path := paths.head?.getD "-"
      match j.read path with
      | (.error refusal, j) => j.refuse path refusal 1
      | (.ok text, j) =>
        if Options.has given "d" then
          let letters := text.toList.filter fun c => c != '\n' &&
            (!Options.has given "i" || code.letters.contains c || c == '=')
          let (octets, fine) := code.decode letters
          let j := j.write (textOfNumbers octets)
          if fine then j else failWith j "invalid input"
        else
          let widthText := (Options.value? given "w").getD "76"
          match widthText.toNat? with
          | none => failWith j ("invalid wrap size: " ++ q widthText)
          | some width => j.write (wrapped width (code.encode (numbersOf text)))

/-- `base64`: writes octets with sixty-four letters, or reads them back. -/
def base64 : Job → Job := coded Dump.code64

/-- `base32`: writes octets with thirty-two letters, or reads them back. -/
def base32 : Job → Job := coded Dump.code32

/-- `basenc`: writes octets with letters of which a word tells, or reads them back. -/
def basenc (j : Job) : Job :=
  let codes : List (String × Dump.Code) :=
    [("--base64", Dump.code64), ("--base64url", Dump.code64Url), ("--base32", Dump.code32),
      ("--base32hex", Dump.code32Hex), ("--base16", Dump.code16)]
  let (words, others) := j.call.arguments.partition fun a => (codes.lookup a).isSome
  match words.getLast?.bind fun w => codes.lookup w with
  | some code => coded code { j with call := { j.call with arguments := others } }
  | none => j.misuse "missing encoding type" 1

end Tool

end EnvProfiles
