import EnvProfiles.Log.Level
import EnvProfiles.Rendering
import Mathlib.Data.List.Basic

/-!
# Reading JSON

A reader of JSON texts, which takes all values that there are and not only those
that are written here: what is written has to be understood by anybody who reads
JSON. A text is one value with blanks around it, no comma stands before a closing
bracket, and a number has neither a plus in front nor zeros.

The members of an object are kept in the order in which they are written, and a
name may come twice. Of a set of variables the last member of a name counts, as is
usual.

## Main definitions

* `Json`: A value.
* `Json.read?`: The value that a text denotes.
* `Json.variables?`: The variables that an object of texts stands for.

## Theorems

* `Json.members?_written`: Written members are read in their order.
* `Json.read?_object`: The written object is read as the object that was meant.
-/

namespace EnvProfiles

/-- A value of JSON. A number is given by its text. -/
inductive Json where
  | null
  | bool (value : Bool)
  | number (text : String)
  | text (value : String)
  | array (items : List Json)
  | object (members : List (String × Json))

namespace Json

/-- Passes blanks. -/
def skip (cs : List Char) : List Char := cs.dropWhile LogLevel.isJsonSpace

/-- Reads digits, of which there must be one. -/
def digits? (cs : List Char) : Option (List Char × List Char) :=
  match cs.takeWhile Char.isDigit with
  | [] => none
  | ds => some (ds, cs.dropWhile Char.isDigit)

/-- Reads the digits before the point. No zero stands in front of others. -/
def whole? : List Char → Option (List Char × List Char)
  | '0' :: r => some (['0'], r)
  | cs => digits? cs

/-- Reads a point and the digits after it, if there is a point. -/
def fraction? : List Char → Option (List Char × List Char)
  | '.' :: r => (digits? r).map fun (ds, r) => ('.' :: ds, r)
  | cs => some ([], cs)

/-- Reads an exponent after its letter. -/
def power? (letter : Char) : List Char → Option (List Char × List Char)
  | '+' :: r => (digits? r).map fun (ds, r) => (letter :: '+' :: ds, r)
  | '-' :: r => (digits? r).map fun (ds, r) => (letter :: '-' :: ds, r)
  | cs => (digits? cs).map fun (ds, r) => (letter :: ds, r)

/-- Reads an exponent, if there is one. -/
def exponent? : List Char → Option (List Char × List Char)
  | 'e' :: r => power? 'e' r
  | 'E' :: r => power? 'E' r
  | cs => some ([], cs)

/-- Reads a number without its sign. -/
def unsigned? (cs : List Char) : Option (List Char × List Char) := do
  let (whole, cs) ← whole? cs
  let (fraction, cs) ← fraction? cs
  let (exponent, cs) ← exponent? cs
  return (whole ++ fraction ++ exponent, cs)

/-- Reads a number. -/
def number? : List Char → Option (Json × List Char)
  | '-' :: r => (unsigned? r).map fun (ds, r) => (number (String.ofList ('-' :: ds)), r)
  | cs => (unsigned? cs).map fun (ds, r) => (number (String.ofList ds), r)

/-- Reads a value that is written without quotes and brackets. -/
def bare? : List Char → Option (Json × List Char)
  | 'n' :: 'u' :: 'l' :: 'l' :: r => some (null, r)
  | 't' :: 'r' :: 'u' :: 'e' :: r => some (bool true, r)
  | 'f' :: 'a' :: 'l' :: 's' :: 'e' :: r => some (bool false, r)
  | cs => number? cs

/-- Reads a text after its opening quote. -/
def quoted? (cs : List Char) : Option (String × List Char) :=
  (Quoted.decode cs).map fun (value, r) => (String.ofList value, r)

mutual

/-- Reads a value, which blanks may precede. The number bounds how far the reading may still go down
into brackets or along them. -/
def value? : Nat → List Char → Option (Json × List Char)
  | 0, _ => none
  | n + 1, cs =>
    match skip cs with
    | '{' :: r =>
      match skip r with
      | '}' :: r => some (object [], r)
      | _ => (members? n r).map fun (members, r) => (object members, r)
    | '[' :: r =>
      match skip r with
      | ']' :: r => some (array [], r)
      | _ => (items? n r).map fun (items, r) => (array items, r)
    | '"' :: r => (quoted? r).map fun (value, r) => (text value, r)
    | r => bare? r
termination_by structural n => n

/-- Reads the items of an array up to its closing bracket, of which there is one at least. -/
def items? : Nat → List Char → Option (List Json × List Char)
  | 0, _ => none
  | n + 1, cs => do
    let (item, r) ← value? n cs
    match skip r with
    | ',' :: r =>
      let (items, r) ← items? n r
      return (item :: items, r)
    | ']' :: r => return ([item], r)
    | _ => none
termination_by structural n => n

/-- Reads the members of an object up to its closing brace, of which there is one at least. -/
def members? : Nat → List Char → Option (List (String × Json) × List Char)
  | 0, _ => none
  | n + 1, cs =>
    match skip cs with
    | '"' :: r => do
      let (name, r) ← quoted? r
      match skip r with
      | ':' :: r =>
        let (item, r) ← value? n r
        match skip r with
        | ',' :: r =>
          let (members, r) ← members? n r
          return ((name, item) :: members, r)
        | '}' :: r => return ([(name, item)], r)
        | _ => none
      | _ => none
    | _ => none
termination_by structural n => n

end

/-- The value that a text denotes, which may stand between blanks. No text has brackets for more
than two steps with each of its characters. -/
def read? (text : String) : Option Json := do
  let (value, rest) ← value? (2 * (text.toList.length + 1)) text.toList
  if rest.all LogLevel.isJsonSpace then return value else none

/-- The text that a value is, if it is one. -/
def text? : Json → Option String
  | text value => some value
  | _ => none

/-- The variables that an object of texts stands for. -/
def variables? : Json → Option Dict
  | object members =>
    (members.mapM fun m => (text? m.2).map fun value => (m.1, value)).map Dict.ofList
  | _ => none

/-! ### What was written -/

variable {n : Nat}

theorem skip_cons {c : Char} (h : LogLevel.isJsonSpace c = true) (cs : List Char) :
    skip (c :: cs) = skip cs := by
  rw [skip, List.dropWhile_cons, if_pos h, skip]

theorem value?_cons {c : Char} (h : LogLevel.isJsonSpace c = true) (cs : List Char) :
    value? n (c :: cs) = value? n cs := by
  cases n with
  | zero => rfl
  | succ n => rw [value?, value?, skip_cons h]

theorem members?_cons {c : Char} (h : LogLevel.isJsonSpace c = true) (cs : List Char) :
    members? n (c :: cs) = members? n cs := by
  cases n with
  | zero => rfl
  | succ n => rw [members?, members?, skip_cons h]

/-- A text with its quotes, and what follows it. -/
theorem toList_quote_append (value : String) (r : List Char) :
    (Quoted.quote value).toList ++ r = '"' :: (Quoted.encode value.toList ++ '"' :: r) := by
  rw [Quoted.quote, String.toList_ofList]
  simp only [List.cons_append, List.append_assoc, List.nil_append]

theorem quoted?_encode (value : String) (r : List Char) :
    quoted? (Quoted.encode value.toList ++ '"' :: r) = some (value, r) := by
  simp only [quoted?, Quoted.decode_encode, Option.map_some, String.ofList_toList]

theorem value?_quote (value : String) (r : List Char) :
    value? (n + 1) ((Quoted.quote value).toList ++ r) = some (text value, r) := by
  have hskip : skip ('"' :: (Quoted.encode value.toList ++ '"' :: r)) =
      '"' :: (Quoted.encode value.toList ++ '"' :: r) := rfl
  rw [toList_quote_append, value?]
  simp only [hskip, quoted?_encode, Option.map_some]

/-- A member is read, and then it is seen whether there are more. -/
theorem members?_member (n : Nat) (name value : String) (r : List Char) :
    members? (n + 2) ((Rendering.member name value).toList ++ r) =
      match skip r with
      | ',' :: r =>
        (members? (n + 1) r).map fun (members, r) => ((name, text value) :: members, r)
      | '}' :: r => some ([(name, text value)], r)
      | _ => none := by
  -- A member is two blanks, its name, a colon and its value.
  have hmember : (Rendering.member name value).toList ++ r =
      ' ' :: ' ' :: '"' :: (Quoted.encode name.toList ++
        '"' :: ':' :: ' ' :: ((Quoted.quote value).toList ++ r)) := by
    have hspaces : "  ".toList = [' ', ' '] := rfl
    have hcolon : ": ".toList = [':', ' '] := rfl
    simp only [Rendering.member, String.toList_append, List.append_assoc, toList_quote_append,
      hspaces, hcolon, List.cons_append, List.nil_append]
  have hname : skip ('"' :: (Quoted.encode name.toList ++
      '"' :: ':' :: ' ' :: ((Quoted.quote value).toList ++ r))) =
      '"' :: (Quoted.encode name.toList ++
        '"' :: ':' :: ' ' :: ((Quoted.quote value).toList ++ r)) := rfl
  have hcolon : ∀ cs, skip (':' :: cs) = ':' :: cs := fun _ => rfl
  rw [hmember, members?_cons rfl, members?_cons rfl, members?]
  simp only [hname, quoted?_encode, hcolon, value?_cons (c := ' ') rfl, value?_quote,
    Option.bind_eq_bind, Option.bind_some]
  split
  next => rw [Option.map_eq_bind]; rfl
  next => rfl
  next => rfl

/-- The members that variables are written as. -/
def membersOf (entries : List (String × String)) : List (String × Json) :=
  entries.map fun e => (e.1, text e.2)

/-- The lines that variables are written as, with commas between them. -/
def linesOf (entries : List (String × String)) : List Char :=
  [',', '\n'].intercalate (entries.map fun e => (Rendering.member e.1 e.2).toList)

theorem linesOf_cons_cons (e next : String × String) (entries : List (String × String)) :
    linesOf (e :: next :: entries) =
      (Rendering.member e.1 e.2).toList ++ ',' :: '\n' :: linesOf (next :: entries) := by
  rw [linesOf, List.map_cons, List.map_cons, List.intercalate_cons_cons, linesOf, List.map_cons,
    List.append_assoc, List.cons_append, List.cons_append, List.nil_append]

/-- There are more characters than lines. -/
theorem length_linesOf (entries : List (String × String)) :
    entries.length ≤ (linesOf entries).length + 1 := by
  induction entries with
  | nil => exact Nat.zero_le _
  | cons e entries ih =>
      cases entries with
      | nil => exact Nat.le_add_left _ _
      | cons next entries =>
          rw [linesOf_cons_cons]
          simp only [List.length_append, List.length_cons] at ih ⊢
          omega

/-- Written members are read in their order, up to the brace after the last one. -/
theorem members?_written (n : Nat) {entries : List (String × String)} (hne : entries ≠ [])
    (r : List Char) :
    members? (n + entries.length + 1) (linesOf entries ++ '\n' :: '}' :: r) =
      some (membersOf entries, r) := by
  have hbrace : skip ('\n' :: '}' :: r) = '}' :: r := rfl
  induction entries with
  | nil => exact absurd rfl hne
  | cons e entries ih =>
      cases entries with
      | nil =>
          have hline : linesOf [e] = (Rendering.member e.1 e.2).toList :=
            List.intercalate_singleton
          rw [hline, List.length_singleton, members?_member, hbrace]
          rfl
      | cons next entries =>
          -- The comma shows that there are more, and they begin on the next line.
          have hcomma : ∀ cs, skip (',' :: cs) = ',' :: cs := fun _ => rfl
          have hmore := ih (List.cons_ne_nil _ _)
          rw [linesOf_cons_cons, List.append_assoc, List.cons_append, List.cons_append,
            List.length_cons, ← Nat.add_assoc, members?_member, hcomma]
          simp only [members?_cons (c := '\n') rfl, hmore, Option.map_some, membersOf,
            List.map_cons]

/-- The text of a set with a variable in it: a line for each of them between the braces. -/
theorem toList_object {vars : Dict} (hne : vars.toList ≠ []) :
    (Rendering.object vars).toList = '{' :: '\n' :: (linesOf vars.toList ++ ['\n', '}']) := by
  have hnotEmpty : ¬ vars.isEmpty = true := fun h => hne (List.isEmpty_iff.mp h)
  have hopening : "\x7b\n".toList = ['{', '\n'] := rfl
  have hclosing : "\n\x7d".toList = ['\n', '}'] := rfl
  have hcomma : ",\n".toList = [',', '\n'] := rfl
  rw [Rendering.object, if_neg hnotEmpty]
  simp only [String.toList_append, String.toList_intercalate, List.map_map, hopening, hclosing,
    hcomma, List.cons_append, List.nil_append]
  rfl

/-- Members that can be read are the members of an object. -/
theorem value?_object {cs rest : List Char} {members : List (String × Json)}
    (h : members? n cs = some (members, rest)) :
    value? (n + 1) ('{' :: cs) = some (object members, rest) := by
  have hbrace : skip ('{' :: cs) = '{' :: cs := rfl
  rw [value?, hbrace]
  simp only []
  split
  next r hskip =>
    -- Where the object ends at once there is no member to be read.
    cases n with
    | zero => cases h
    | succ n =>
        rw [members?, hskip] at h
        cases h
  next => rw [h, Option.map_some]

/-- The written object is read as the object that was meant. -/
theorem read?_object (vars : Dict) :
    read? (Rendering.object vars) = some (object (membersOf vars.toList)) := by
  by_cases hempty : vars.toList = []
  · have hobject : (Rendering.object vars).toList = ['{', '}'] := by
      rw [Rendering.object, if_pos (show vars.isEmpty = true from List.isEmpty_iff.mpr hempty)]
      rfl
    rw [read?, hobject, hempty]
    rfl
  · have hlength : vars.toList.length ≤ (linesOf vars.toList).length + 1 :=
      length_linesOf vars.toList
    -- The text has room for its members, each of which takes a step.
    obtain ⟨m, hm⟩ : ∃ m, 2 * ((Rendering.object vars).toList.length + 1) =
        m + vars.toList.length + 1 + 1 := by
      refine ⟨2 * ((Rendering.object vars).toList.length + 1) - vars.toList.length - 2, ?_⟩
      rw [toList_object hempty]
      simp only [List.length_cons, List.length_append, List.length_nil]
      omega
    have hmembers := members?_written m hempty []
    rw [← members?_cons (c := '\n') rfl] at hmembers
    rw [read?, hm, toList_object hempty, value?_object hmembers]
    rfl

/-- The texts that members were written from are found in them. -/
theorem mapM_membersOf (entries : List (String × String)) :
    (membersOf entries).mapM (fun m => (text? m.2).map fun value => (m.1, value)) =
      some entries := by
  induction entries with
  | nil => rfl
  | cons e entries ih =>
      have hcons : membersOf (e :: entries) = (e.1, text e.2) :: membersOf entries := rfl
      rw [hcons, List.mapM_cons, ih]
      rfl

end Json

end EnvProfiles
