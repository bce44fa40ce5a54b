import EnvProfiles.Shell.Pattern
import EnvProfiles.Tool.Escape
import EnvProfiles.Tool.Lines

/-!
# Characters and Columns

Programs that look at characters one by one, or at parts of lines that are given
by numbers: a set of characters is written as a row of them, with ranges, classes
and repetitions, and a set of columns as a list of numbers and ranges.

## Main definitions

* `Translate.chars`: The characters that the text of a set stands for.
* `Tool.tr`: Replaces, removes and squeezes characters.
* `Tool.cut`: Shows columns of lines.
-/

namespace EnvProfiles

namespace Translate

/-- A member of a set of characters. -/
inductive Member where
  | char (c : Char)
  | range (low high : Char)
  | named (name : String)
  /-- A character so many times, or as often as there is room for it. -/
  | times (c : Char) (count : Option Nat)
deriving DecidableEq, Repr

/-- A character, or what stands for one after a backslash, and what follows. -/
def unescape (cs : List Char) : Option (Char × Bool × List Char) :=
  match cs with
  | [] => none
  | '\\' :: [] => some ('\\', false, [])
  | '\\' :: c :: r =>
    if Escape.isOctal c then
      let ds := Escape.leading 3 Escape.isOctal (c :: r)
      -- A third digit that leads beyond an octet stands for itself.
      let ds := if 255 < Escape.value 8 ds then ds.take 2 else ds
      some (Escape.octet (Escape.value 8 ds), true, (c :: r).drop ds.length)
    else
      match c with
      | 'a' => some ('\x07', true, r)
      | 'b' => some ('\x08', true, r)
      | 'f' => some ('\x0c', true, r)
      | 'n' => some ('\n', true, r)
      | 'r' => some ('\r', true, r)
      | 't' => some ('\t', true, r)
      | 'v' => some ('\x0b', true, r)
      | c => some (c, true, r)
  | c :: r => some (c, false, r)

/-- The text up to a sign and a bracket, and what follows. -/
def upTo? (sign : Char) : List Char → Option (List Char × List Char)
  | c :: ']' :: r =>
    if c == sign then some ([], r)
    else (upTo? sign (']' :: r)).map fun (t, r) => (c :: t, r)
  | c :: r => (upTo? sign r).map fun (t, r) => (c :: t, r)
  | [] => none

/-- A count in brackets: octal if it begins with a zero. -/
def countOf (digits : List Char) : Nat :=
  match digits with
  | '0' :: r => Escape.value 8 r
  | ds => Escape.value 10 ds

/-- The members of a set. The bound is the length of its text. -/
def members : Nat → List Char → Except String (List Member)
  | 0, _ => .ok []
  | _ + 1, [] => .ok []
  | n + 1, cs =>
    let single : Except String (List Member) :=
      match unescape cs with
      | none => .ok []
      | some (low, _, '-' :: r) =>
        match unescape r with
        | none => (members n ['-']).map (.char low :: ·)
        | some (high, _, rest) =>
          if high < low then
            .error ("range-endpoints of '" ++ String.ofList (cs.take (cs.length - rest.length)) ++
              "' are in reverse collating sequence order")
          else (members n rest).map (.range low high :: ·)
      | some (c, _, r) => (members n r).map (.char c :: ·)
    match cs with
    | '[' :: ':' :: r =>
      match upTo? ':' r with
      | some (name, rest) =>
        if (Shell.Pattern.classes.lookup (String.ofList name)).isSome then
          (members n rest).map (.named (String.ofList name) :: ·)
        else .error ("invalid character class " ++ Quote.always (String.ofList name))
      | none => single
    | '[' :: '=' :: r =>
      match upTo? '=' r with
      | some ([c], rest) => (members n rest).map (.char c :: ·)
      | _ => single
    | '[' :: r =>
      match unescape r with
      | some (c, _, '*' :: r) =>
        let digits := r.takeWhile Char.isDigit
        match r.drop digits.length with
        | ']' :: rest =>
          let count := countOf digits
          (members n rest).map (.times c (if count == 0 then none else some count) :: ·)
        | _ => single
      | _ => single
    | _ => single

/-- All octets. -/
def octets : List Char := (List.range 256).map Char.ofNat

/-- The characters of a member, given how many a repetition without a count stands for. -/
def Member.chars (room : Nat) : Member → List Char
  | char c => [c]
  | range low high => octets.filter fun c => low ≤ c && c ≤ high
  | named name => octets.filter ((Shell.Pattern.classes.lookup name).getD fun _ => false)
  | times c (some n) => List.replicate n c
  | times c none => List.replicate room c

/-- The characters of a set, which fill so many places if they can. -/
def chars (size : Nat) (ms : List Member) : List Char :=
  let fixed := (ms.flatMap (Member.chars 0)).length
  ms.flatMap (Member.chars (size - fixed))

/-- What a character is replaced by, given both sets, of which the last character of the second one
stands for all that are missing. -/
def replace (first second : List Char) (c : Char) : Char :=
  match second.getLast? with
  | none => c
  | some last =>
    -- Of several places at which a character stands in the first set the last one counts.
    match ((first.zipIdx).filter fun e => e.1 == c).getLast? with
    | some (_, i) => second.getD i last
    | none => c

/-- A text in which of characters of a set that follow each other and are equal only one is left. -/
def squeeze (inSet : Char → Bool) : List Char → List Char
  | a :: b :: r =>
    if a == b && inSet a then squeeze inSet (b :: r) else a :: squeeze inSet (b :: r)
  | cs => cs

end Translate

namespace Tool

/-- `tr`: replaces, removes and squeezes characters. -/
def tr (j : Job) : Job :=
  j.withOptions 1 ⟨"cCdst", [("complement", "c"), ("delete", "d"), ("squeeze-repeats", "s"),
    ("truncate-set1", "t")], true⟩ fun j given sets =>
    let complement := Options.has given "c" || Options.has given "C"
    let deletes := Options.has given "d"
    let squeezes := Options.has given "s"
    let least := if deletes == squeezes then 2 else 1
    let most := if deletes && !squeezes then 1 else 2
    let hint (j : Job) (text : String) : Job := j.sendTo 2 (text ++ "\n")
    let again (j : Job) : Job := (j.sendTo 2
      ("Try '" ++ j.call.name ++ " --help' for more information.\n")).fail 1
    match sets with
    | [] => j.missingOperand [] 1
    | [a] =>
      if least == 2 then
        again (hint (j.complain ("missing operand after " ++ Quote.always a)) (if squeezes then
          "Two strings must be given when both deleting and squeezing repeats."
          else "Two strings must be given when translating."))
      else go j given complement deletes squeezes a none
    | a :: b :: more =>
      match if most == 1 then some b else more.head? with
      | some extra =>
        let j := j.complain ("extra operand " ++ Quote.always extra)
        again (if most == 1 then
          hint j "Only one string may be given when deleting without squeezing repeats." else j)
      | none => go j given complement deletes squeezes a (some b)
where
  /-- Does the work with the texts of the sets. -/
  go (j : Job) (given : List Options.Given) (complement deletes squeezes : Bool) (a : String)
      (b : Option String) : Job :=
    let read (text : String) : Except String (List Translate.Member) :=
      Translate.members (text.length + 1) text.toList
    match read a, read (b.getD "") with
    | .error message, _ => (j.complain message).fail 1
    | _, .error message => (j.complain message).fail 1
    | .ok first, .ok second =>
      let isClass : Translate.Member → Bool
        | .named name => name != "upper" && name != "lower"
        | _ => false
      let translates := !deletes && b.isSome
      let repeats (ms : List Translate.Member) : Bool := ms.any fun
        | .times _ none => true
        | _ => false
      if repeats first then
        (j.complain "the [c*] repeat construct may not appear in string1").fail 1
      else if translates && second.any isClass then
        (j.complain ("when translating, the only character classes that may appear in\n" ++
          "string2 are 'upper' and 'lower'")).fail 1
      else
        let set := Translate.chars 0 first
        let set := if complement then Translate.octets.filter (!set.contains ·) else set
        let other := Translate.chars set.length second
        if translates && other.isEmpty && !set.isEmpty && !Options.has given "t" then
          (j.complain "when not truncating set1, string2 must be non-empty").fail 1
        else
          let set := if Options.has given "t" then set.take other.length else set
          let (input, j) := j.takeInput
          match input with
          | .error refusal => (j.complain ("read error: " ++ refusal.detail)).fail 1
          | .ok text =>
            let cs := text.toList
            let cs := if deletes then cs.filter (!set.contains ·)
              else if translates then
                let table := (Translate.octets.map (Translate.replace set other)).toArray
                cs.map fun c => table.getD c.toNat c
              else cs
            let kept := if b.isSome then other else set
            let cs := if squeezes then Translate.squeeze kept.contains cs else cs
            j.write (String.ofList cs)

/-! ### Columns -/

/-- Numbers from one on: a range, which may have no end. -/
abbrev Range := Nat × Option Nat

/-- What is wrong with the text of a range. -/
def rangeFault (byField : Bool) (text : String) : String :=
  if byField then "invalid field value " ++ Quote.always text
  else "invalid byte/character position " ++ Quote.always text

/-- The range that a text stands for. -/
def range? (byField : Bool) (text : String) : Except String Range :=
  let number (cs : List Char) : Option Nat :=
    if cs.all Char.isDigit then (String.ofList cs).toNat? else none
  let fromOne : String := (if byField then "fields" else "byte/character positions") ++
    " are numbered from 1"
  match splitAt '-' text.toList with
  | [] => .error fromOne
  | [single] =>
    if single.isEmpty then .error fromOne
    else
      match number single with
      | some 0 => .error fromOne
      | some n => .ok (n, some n)
      | none => .error (rangeFault byField text)
  | [[], []] => .error "invalid range with no endpoint: -"
  | [[], high] =>
    match number high with
    | some 0 => .error "invalid decreasing range"
    | some n => .ok (1, some n)
    | none => .error (rangeFault byField (String.ofList high))
  | [low, high] =>
    match number low, number high with
    | some 0, _ => .error fromOne
    | some n, some m => if m < n then .error "invalid decreasing range" else .ok (n, some m)
    | some n, none => if high.isEmpty then .ok (n, none)
      else .error (rangeFault byField (String.ofList high))
    | none, _ => .error (rangeFault byField (String.ofList low))
  | _ => .error (if byField then "invalid field range" else "invalid byte or character range")

/-- Whether a number is in one of some ranges. -/
def inRanges (ranges : List Range) (n : Nat) : Bool :=
  ranges.any fun (low, high) => low ≤ n && high.all (n ≤ ·)

/-- Characters of a line by their places, with a text between those that do not follow each
other. -/
def cutChars (wanted : Nat → Bool) (separator : Option String) (line : List Char) : List Char :=
  match separator with
  | none => line.zipIdx.filterMap fun (c, i) => if wanted (i + 1) then some c else none
  | some s =>
    (line.zipIdx.foldl (fun (out, last) (c, i) =>
      if wanted (i + 1) then
        let gap := match last with
          | some k => if k + 1 == i then [] else s.toList
          | none => []
        (out ++ gap ++ [c], some i)
      else (out, last)) (([] : List Char), (none : Option Nat))).1

/-- `cut`: shows columns of lines. -/
def cut (j : Job) : Job :=
  j.withOptions 1 ⟨"b:c:d:f:nsz", [("bytes", "b"), ("characters", "c"), ("delimiter", "d"),
    ("fields", "f"), ("only-delimited", "s"), ("zero-terminated", "z"),
    ("complement", "complement"), ("output-delimiter", "output-delimiter:")], false⟩
    fun j given paths =>
    let lists := given.filter fun g => ["b", "c", "f"].contains g.1
    let separatorText := Options.value? given "d"
    match lists with
    | [] => j.misuse "you must specify a list of bytes, characters, or fields" 1
    | _ :: _ :: _ => j.misuse "only one list may be specified" 1
    | [(kind, list)] =>
      let byField := kind == "f"
      let separators := (separatorText.getD "\t").toList
      if 1 < separators.length then
        j.misuse "the delimiter must be a single character" 1
      else if !byField && separatorText.isSome then
        j.misuse "an input delimiter may be specified only when operating on fields" 1
      else if !byField && Options.has given "s" then
        j.misuse ("suppressing non-delimited lines makes sense\n" ++
          "\tonly when operating on fields") 1
      else
        let items := (splitAt ',' ((list.getD "").toList.map fun c =>
          if c == ' ' || c == '\t' then ',' else c)).map String.ofList
        match items.mapM (range? byField) with
        | .error message => j.misuse message 1
        | .ok ranges =>
          let stop := Lines.stopOf given "z"
          let separator := separators.head?.getD '\x00'
          let complement := Options.has given "complement"
          let wanted (n : Nat) : Bool := inRanges ranges n != complement
          let between := Options.value? given "output-delimiter"
          j.forEachInput paths fun j _ text =>
            j.write (String.join ((Lines.split stop text).map fun line =>
              let cs := line.toList
              if byField then
                if !cs.contains separator then
                  if Options.has given "s" then "" else line.push stop
                else
                  let fields := (splitAt separator cs).map String.ofList
                  let shown := fields.zipIdx.filterMap fun (f, i) =>
                    if wanted (i + 1) then some f else none
                  (String.intercalate (between.getD (String.singleton separator)) shown).push stop
              else (String.ofList (cutChars wanted between cs)).push stop))

end Tool

end EnvProfiles
