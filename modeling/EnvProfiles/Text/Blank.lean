/-!
# White Space

The characters that Unicode counts as white space, and the two things that are
done with them here: taking them off both ends of a text, and cutting a text
into the words between them.

## Main definitions

* `isSpace`: The Unicode property `White_Space`.
* `trim`: A text without white space at its ends.
* `words`: The stretches between white space.
* `splitAt`: The stretches between occurrences of a character.
-/

namespace EnvProfiles

/-- Whether a character has the Unicode property `White_Space`, which 25 characters have. -/
def isSpace (c : Char) : Bool :=
  let n := c.toNat
  (0x09 ≤ n && n ≤ 0x0D) || n == 0x20 || n == 0x85 || n == 0xA0 || n == 0x1680 ||
    (0x2000 ≤ n && n ≤ 0x200A) || n == 0x2028 || n == 0x2029 || n == 0x202F || n == 0x205F ||
    n == 0x3000

/-- A text without white space at its start. -/
def trimStart (cs : List Char) : List Char := cs.dropWhile isSpace

/-- A text without white space at its end. -/
def trimEnd (cs : List Char) : List Char := (cs.reverse.dropWhile isSpace).reverse

/-- A text without white space at its ends. -/
def trim (cs : List Char) : List Char := trimEnd (trimStart cs)

/-- Whether a text consists of white space. -/
def isBlankText (text : String) : Bool := text.toList.all isSpace

/-- The stretches between the characters that pass a test, of which there is one more than of
those. -/
def cutAt (test : Char → Bool) : List Char → List (List Char)
  | [] => [[]]
  | c :: r =>
    if test c then [] :: cutAt test r
    else
      match cutAt test r with
      | piece :: pieces => (c :: piece) :: pieces
      | [] => [[c]]

/-- The stretches between occurrences of a character. -/
def splitAt (c : Char) (cs : List Char) : List (List Char) := cutAt (· == c) cs

/-- The words of a text: the stretches between white space that are not empty. -/
def words (text : String) : List String :=
  ((cutAt isSpace text.toList).filter fun w => !w.isEmpty).map String.ofList

end EnvProfiles
