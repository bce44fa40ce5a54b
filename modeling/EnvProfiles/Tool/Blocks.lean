import EnvProfiles.Tool.Files

/-!
# Blocks

Programs that take files apart into blocks of octets or lines, or copy a few of
them.

## Main definitions

* `Tool.dd`: Copies blocks.
* `Tool.split`: Writes parts of a file to files of their own.
* `Tool.tsort`: Sorts words by which of them have to come first.
* `Tool.shuf`: Shows a choice of lines.
-/

namespace EnvProfiles.Tool

/-- The value of a word of `dd`, which has a name and a sign before it. -/
def ddValue? (words : List String) (name : String) : Option String :=
  ((words.filter fun w => (name ++ "=").isPrefixOf w).getLast?).map (dropText (name.length + 1))

/-- `dd`: copies blocks. -/
def dd (j : Job) : Job :=
  let words := j.call.arguments
  let known := ["if", "of", "bs", "ibs", "obs", "cbs", "count", "skip", "seek", "iseek", "oseek",
    "conv", "status", "iflag", "oflag"]
  match words.find? fun w => !known.any fun k => (k ++ "=").isPrefixOf w with
  | some "--help" => j
  | some "--version" => j
  | some w => j.misuse ("unrecognized operand " ++ q w) 1
  | none =>
    let value := ddValue? words
    let number (name : String) (standard : Nat) : Nat := ((value name).bind count?).getD standard
    let size := number "bs" (number "ibs" 512)
    match ["bs", "ibs", "obs", "count", "skip", "seek"].findSome? fun k =>
      (value k).bind fun t => if (count? t).isNone then some t else none with
    | some t => failWith j ("invalid number: " ++ q t)
    | none =>
      let source := (value "if").getD "-"
      match j.read source with
      | (.error refusal, j) => failWith j ("failed to open " ++ q source ++ ": " ++ refusal.detail)
      | (.ok text, j) =>
        -- A device without an end has as many octets as are asked for.
        let isZero := (j.disk.find j.call.base source).toOption.any fun f =>
          f.2.content == .device .zero
        let wanted := (value "count").bind count?
        let text := if isZero then
            String.ofList (List.replicate (wanted.getD 0 * size) '\x00') else text
        let rest := dropText (number "skip" (number "iseek" 0) * size) text
        let taken := match wanted with
          | some n => takeText (n * size) rest
          | none => rest
        let conversions := ((splitAt ',' ((value "conv").getD "").toList).map String.ofList)
        let converted :=
          if conversions.contains "ucase" then taken.map Char.toUpper
          else if conversions.contains "lcase" then taken.map Char.toLower
          else taken
        let full := taken.length / size
        let part := if taken.length % size == 0 then 0 else 1
        let seek := number "seek" (number "oseek" 0) * number "bs" (number "obs" 512)
        let written : Except Refusal Job := match value "of" with
          | none => .ok (j.send converted)
          | some path =>
            let before := match j.disk.find j.call.base path with
              | .ok (_, ⟨.file octets, _, _⟩) => octets
              | _ => ""
            let start := takeText seek before
            let gap := String.ofList (List.replicate (seek - start.length) '\x00')
            let after := if conversions.contains "notrunc" then
                dropText (seek + converted.length) before else ""
            j.writeFile path (start ++ gap ++ converted ++ after)
        match written with
        | .error refusal =>
          failWith j ("failed to open " ++ q ((value "of").getD "") ++ ": " ++ refusal.detail)
        | .ok j =>
          let counts := toString full ++ "+" ++ toString part
          if value "status" == some "none" then j
          else
            let j := j.flush.sendTo 2 (counts ++ " records in\n" ++ counts ++ " records out\n")
            if value "status" == some "noxfer" then j
            else j.sendTo 2 (toString taken.length ++ " bytes copied, 0.0001 s\n")

/-- The letters or digits after the names of parts. -/
def partSuffix (numeric : Bool) (width n : Nat) : String :=
  let base := if numeric then 10 else 26
  String.ofList (((List.range width).map fun i =>
    let d := n / Nat.pow base (width - 1 - i) % base
    Char.ofNat ((if numeric then '0'.toNat else 'a'.toNat) + d)))

/-- Groups of so many items. The bound is on how many there are. -/
def chunks {α : Type} (size : Nat) : Nat → List α → List (List α)
  | 0, _ => []
  | n + 1, items =>
    if items.isEmpty then [] else items.take size :: chunks size n (items.drop size)

/-- `split`: writes parts of a file to files of their own. -/
def split (j : Job) : Job :=
  j.withOptions 1 ⟨"a:b:C:dl:n:t:ux", [("suffix-length", "a"), ("bytes", "b"),
    ("numeric-suffixes", "d"), ("lines", "l"), ("number", "n"), ("verbose", "verbose"),
    ("additional-suffix", "additional-suffix:")], false⟩ fun j given operands =>
    match operands with
    | _ :: _ :: extra :: _ => j.extraOperand extra 1
    | operands =>
      let path := operands.head?.getD "-"
      let start := (operands[1]?).getD "x"
      let width := ((Options.value? given "a").bind String.toNat?).getD 2
      match j.read path with
      | (.error refusal, j) =>
        failWith j ("cannot open " ++ q path ++ " for reading: " ++ refusal.detail)
      | (.ok text, j) =>
        let number (key : String) : Option Nat := (Options.value? given key).bind count?
        let parts := match number "b", number "n" with
          | some n, _ => (chunks (max 1 n) (text.length + 1) text.toList).map String.ofList
          | none, some n =>
            let size := text.length / max 1 n
            (List.range n).map fun i =>
              let rest := dropText (i * size) text
              if i + 1 == n then rest else takeText size rest
          | none, none =>
            let pieces := Lines.pieces '\n' text
            (chunks (max 1 ((number "l").getD 1000)) (pieces.length + 1) pieces).map String.join
        let ending := (Options.value? given "additional-suffix").getD ""
        (parts.zipIdx).foldl (fun j (part, i) =>
          let name := start ++ partSuffix (Options.has given "d") width i ++ ending
          let j := if Options.has given "verbose" then
              j.write ("creating file " ++ q name ++ "\n") else j
          match j.writeFile name part with
          | .ok j => j
          | .error refusal => j.refuse name refusal 1) j

/-- Words in an order in which every first word of a pair comes before the second: those that are
free wait in a row, and what a word sets free joins the row at its end, the pair that was given last
first. The words that are left take part in loops or follow some. The bound is on how many words
there are. -/
def ordered : Nat → List String → List String → List (String × String) →
    List String × List String
  | 0, _, words, _ => ([], words)
  | _ + 1, [], words, _ => ([], words)
  | n + 1, w :: waiting, words, pairs =>
    let (mine, others) := pairs.partition fun p => p.1 == w
    let freed := (mine.map (·.2)).eraseDups.reverse.filter fun v => !others.any fun p => p.2 == v
    let (out, rest) := ordered n (waiting ++ freed) (words.filter (· != w)) others
    (w :: out, rest)

/-- `tsort`: sorts words by which of them have to come first. -/
def tsort (j : Job) : Job :=
  j.withOptions 1 ⟨"w", [], false⟩ fun j _ operands =>
    let path := operands.head?.getD "-"
    match j.read path with
    | (.error refusal, j) => j.refuse path refusal 1
    | (.ok text, j) =>
      let words := ((splitAt ' ' (text.toList.map fun c => if isSpace c then ' ' else c)).map
        String.ofList).filter (· != "")
      let rec pairUp : List String → List (String × String)
        | a :: b :: r => (a, b) :: pairUp r
        | _ => []
      if words.length % 2 == 1 then
        failWith j (path ++ ": input contains an odd number of tokens")
      else
        let all := words.eraseDups.mergeSort fun a b => a ≤ b
        let pairs := (pairUp words).filter fun p => p.1 != p.2
        let free := all.filter fun w => !pairs.any fun p => p.2 == w
        let (out, rest) := ordered (all.length + 1) free all pairs
        let j := j.write (Lines.join '\n' out)
        if rest.isEmpty then j
        else
          let j := (rest.foldl (fun j w => j.complain w)
            (j.complain (path ++ ": input contains a loop:"))).fail 1
          j.write (Lines.join '\n' rest)

/-- `shuf`: shows lines in some order, which is the one in which they are given. -/
def shuf (j : Job) : Job :=
  j.withOptions 1 ⟨"ei:n:o:rz", [("echo", "e"), ("input-range", "i"), ("head-count", "n"),
    ("output", "o"), ("repeat", "r"), ("zero-terminated", "z"),
    ("random-source", "random-source:")], false⟩ fun j given operands =>
    let has := Options.has given
    let stop := Lines.stopOf given "z"
    let range := (Options.value? given "i").getD ""
    let bounds := (splitAt '-' range.toList).map fun cs => (String.ofList cs).toNat?
    let wanted := Options.value? given "n"
    let put (lines : List String) (j : Job) : Job :=
      let lines := match wanted.bind String.toNat? with
        | some n => lines.take n
        | none => lines
      match Options.value? given "o" with
      | none => j.write (Lines.join stop lines)
      | some path =>
        match j.writeFile path (Lines.join stop lines) with
        | .ok j => j
        | .error refusal => j.refuse path refusal 1
    if wanted.any fun t => t.toNat?.isNone then
      failWith j ("invalid line count: " ++ q (wanted.getD ""))
    else if has "i" then
      match bounds, operands with
      | [some a, some b], [] =>
        if b + 1 < a then failWith j ("invalid input range: " ++ q range)
        else
          let count := b + 1 - a
          let count := ((wanted.bind String.toNat?).map (min count)).getD count
          put ((List.range count).map fun k => toString (a + k)) j
      | [some _, some _], extra :: _ => j.extraOperand extra 1
      | _, _ => failWith j ("invalid input range: " ++ q range)
    else if has "e" then put operands j
    else
      match operands with
      | _ :: extra :: _ => j.extraOperand extra 1
      | operands =>
        let path := operands.head?.getD "-"
        match j.read path with
        | (.error refusal, j) => j.refuse path refusal 1
        | (.ok text, j) => put (Lines.split stop text) j

end EnvProfiles.Tool
