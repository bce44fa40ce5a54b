import EnvProfiles.Proofs.Renderings.Json
import EnvProfiles.Proofs.Text.Cuts
import Mathlib.Data.List.TakeWhile

/-!
# Reading a Rendering Back

The JSON rendering loses nothing: every quote, every backslash and every control
character is written so that a reader gets it back, and the members stand in the
order of the names. The lines quote nothing. They are read back by cutting the text
at the newlines and every line at its first equals sign, and that gives the
variables as they were exactly if no name holds an equals sign or a newline and no
value holds a newline.

One direction cuts the text where it was put together. The other does not look at
what was written at all: whatever such a reader reads, it reads no other names and
values, so that variables with other ones are never what comes out.

A line without an equals sign is nothing that such a reader has to expect. It may
give up, leave the line out, or take the line for the name of a variable that is
empty, and the same holds in all three cases.

## Main definitions

* `Unassigned`: What a reader does with a line without an equals sign.
* `Unassigned.variables?`: The variables that are read from lines.
* `Rendering.IsLine`: A name and a value that can be written as a line.

## Theorems

* `Unassigned.isLine_of_mem`: Nothing but such names and values is read.
* `Unassigned.assignments?_written`: What was written is read as it was.
* `Rendering.reads_back`: What either rendering can be read back to.
-/

namespace EnvProfiles

/-- What a reader of lines does with a line that has no equals sign in it. -/
inductive Unassigned where
  | refuse
  | skip
  | name
deriving DecidableEq, Repr

namespace Unassigned

/-- What a line without an equals sign is read as. -/
def bare? (line : List Char) : Unassigned → Option (List (String × String))
  | refuse => none
  | skip => some []
  | name => some [(String.ofList line, "")]

/-- What a line is read as, which is cut at its first equals sign. -/
def line? (u : Unassigned) (line : List Char) : Option (List (String × String)) :=
  match line.dropWhile (· != '=') with
  | [] => u.bare? line
  | _ :: value => some [(String.ofList (line.takeWhile (· != '=')), String.ofList value)]

/-- What lines are read as, one after the other. -/
def lines? (u : Unassigned) : List (List Char) → Option (List (String × String))
  | [] => some []
  | line :: lines => do
    let entries ← u.line? line
    let more ← u.lines? lines
    return entries ++ more

/-- The names and values that a text is read as. An empty text has no line. -/
def assignments? (u : Unassigned) (cs : List Char) : Option (List (String × String)) :=
  if cs.isEmpty then some [] else u.lines? (splitAt '\n' cs)

/-- The variables that a text is read as. -/
def variables? (u : Unassigned) (text : String) : Option Dict :=
  (u.assignments? text.toList).map Dict.ofList

end Unassigned

/-- A name and a value that can be written as a line: the name ends before the equals sign, and
both of them before the end of the line. -/
def Rendering.IsLine (e : String × String) : Prop :=
  '=' ∉ e.1.toList ∧ '\n' ∉ e.1.toList ∧ '\n' ∉ e.2.toList

/-! ### Collecting -/

namespace Dict

theorem mem_foldl_insert {pairs : List (String × String)} {d : Dict} {e : String × String}
    (h : e ∈ (pairs.foldl (fun acc e => acc.insert e.1 e.2) d).toList) :
    e ∈ pairs ∨ e ∈ d.toList := by
  induction pairs generalizing d with
  | nil => exact .inr h
  | cons pair pairs ih =>
      rcases ih h with h | h
      · exact .inl (List.mem_cons_of_mem _ h)
      · rcases mem_place h with rfl | h
        · exact .inl List.mem_cons_self
        · exact .inr h

/-- What is collected was among the pairs. -/
theorem mem_of_mem_ofList {pairs : List (String × String)} {e : String × String}
    (h : e ∈ (ofList pairs).toList) : e ∈ pairs := by
  rcases mem_foldl_insert h with h | h
  · exact h
  · exact absurd h List.not_mem_nil

/-- A set of variables is collected again from its entries. -/
theorem ofList_toList (vars : Dict) : ofList vars.toList = vars := by
  refine ext_get? fun name => ?_
  -- Each name is there once, so the order in which the entries are collected does not show.
  rw [get?_ofList, toList, lookup_reverse vars.ascending, get?]

end Dict

/-- The members that variables are written as stand for these variables. -/
theorem Json.variables?_membersOf (vars : Dict) :
    variables? (object (membersOf vars.toList)) = some vars := by
  rw [variables?, mapM_membersOf, Option.map_some, Dict.ofList_toList]

/-! ### Whatever is read -/

namespace Unassigned

variable {u : Unassigned} {e : String × String}

/-- A line is read as a name without an equals sign, and the line has the characters of both. -/
theorem subset_of_mem_line? {line : List Char} {entries : List (String × String)}
    (h : u.line? line = some entries) (he : e ∈ entries) :
    '=' ∉ e.1.toList ∧ e.1.toList ⊆ line ∧ e.2.toList ⊆ line := by
  unfold line? at h
  split at h
  next hdrop =>
    -- There is no equals sign: only a reader that takes the line for a name reads something.
    cases u with
    | refuse => cases h
    | skip =>
        rw [← Option.some.inj h] at he
        exact absurd he List.not_mem_nil
    | name =>
        rw [← Option.some.inj h, List.mem_singleton] at he
        rw [he, String.toList_ofList]
        refine ⟨fun hc => ?_, fun _ hx => hx, List.nil_subset _⟩
        exact absurd (List.dropWhile_eq_nil_iff.mp hdrop _ hc) (by decide)
  next value hdrop =>
    rw [← Option.some.inj h, List.mem_singleton] at he
    rw [he, String.toList_ofList, String.toList_ofList]
    refine ⟨fun hc => ?_, List.takeWhile_subset _, fun x hx => ?_⟩
    · exact absurd (List.mem_takeWhile_imp hc) (by decide)
    · have hmem : x ∈ line.dropWhile (· != '=') := hdrop ▸ List.mem_cons_of_mem _ hx
      exact (List.dropWhile_suffix _).subset hmem

/-- What is read is read from one of the lines. -/
theorem exists_line_of_mem {lines : List (List Char)} {entries : List (String × String)}
    (h : u.lines? lines = some entries) (he : e ∈ entries) :
    ∃ line ∈ lines, ∃ here, u.line? line = some here ∧ e ∈ here := by
  induction lines generalizing entries with
  | nil =>
      rw [← Option.some.inj h] at he
      exact absurd he List.not_mem_nil
  | cons line lines ih =>
      rw [lines?, Option.bind_eq_bind, Option.bind_eq_some_iff] at h
      rcases h with ⟨here, hhere, h⟩
      rw [Option.bind_eq_some_iff] at h
      rcases h with ⟨more, hmore, h⟩
      rw [← Option.some.inj h] at he
      rcases List.mem_append.mp he with he | he
      · exact ⟨line, List.mem_cons_self, here, hhere, he⟩
      · rcases ih hmore he with ⟨other, hother, hread⟩
        exact ⟨other, List.mem_cons_of_mem _ hother, hread⟩

/-- Whatever text is read, what it is read as could have been written as lines. -/
theorem isLine_of_mem {cs : List Char} {entries : List (String × String)}
    (h : u.assignments? cs = some entries) (he : e ∈ entries) : Rendering.IsLine e := by
  unfold assignments? at h
  split at h
  next =>
    rw [← Option.some.inj h] at he
    exact absurd he List.not_mem_nil
  next =>
    rcases exists_line_of_mem h he with ⟨line, hline, here, hhere, he⟩
    have hread := subset_of_mem_line? hhere he
    -- The name and the value are parts of one line.
    have hnewline : '\n' ∉ line := not_mem_of_mem_splitAt hline
    exact ⟨hread.1, fun hc => hnewline (hread.2.1 hc), fun hc => hnewline (hread.2.2 hc)⟩

/-! ### What was written -/

/-- The line that a name and a value are written as. -/
def written (e : String × String) : List Char := e.1.toList ++ '=' :: e.2.toList

theorem line?_written (u : Unassigned) (h : '=' ∉ e.1.toList) :
    u.line? (written e) = some [e] := by
  have hname : ∀ c ∈ e.1.toList, (c != '=') = true :=
    fun c hc => bne_iff_ne.mpr fun hequals => h (hequals ▸ hc)
  have hvalue : (written e).dropWhile (· != '=') = '=' :: e.2.toList := by
    rw [written, List.dropWhile_append_of_pos hname, List.dropWhile_cons_of_neg (by decide)]
  have htake : (written e).takeWhile (· != '=') = e.1.toList := by
    rw [written, List.takeWhile_append_of_pos hname, List.takeWhile_cons_of_neg (by decide),
      List.append_nil]
  unfold line?
  rw [hvalue, htake]
  simp only [String.ofList_toList]

theorem lines?_written (u : Unassigned) {entries : List (String × String)}
    (h : ∀ e ∈ entries, '=' ∉ e.1.toList) : u.lines? (entries.map written) = some entries := by
  induction entries with
  | nil => rfl
  | cons e entries ih =>
      have hmore := ih fun e he => h e (List.mem_cons_of_mem _ he)
      rw [List.map_cons, lines?, line?_written u (h e List.mem_cons_self), hmore]
      rfl

/-- The text of the lines, without a newline after the last one. -/
theorem toList_assignments (vars : Dict) :
    (Rendering.assignments vars).toList = ['\n'].intercalate (vars.toList.map written) := by
  have hnewline : "\n".toList = ['\n'] := rfl
  have hequals : "=".toList = ['='] := rfl
  rw [Rendering.assignments, String.toList_intercalate, List.map_map, hnewline]
  refine congrArg _ (List.map_congr_left fun e _ => ?_)
  simp only [Function.comp_apply, String.toList_append, hequals, written, List.append_assoc,
    List.cons_append, List.nil_append]

/-- Names and values that can be written as lines are read as they were. -/
theorem assignments?_written (u : Unassigned) {vars : Dict}
    (h : ∀ e ∈ vars.toList, Rendering.IsLine e) :
    u.assignments? (Rendering.assignments vars).toList = some vars.toList := by
  rw [toList_assignments]
  by_cases hempty : vars.toList = []
  · rw [hempty]
    rfl
  · have hne : vars.toList.map written ≠ [] := fun hc => hempty (List.map_eq_nil_iff.mp hc)
    have hcut : splitAt '\n' (['\n'].intercalate (vars.toList.map written)) =
        vars.toList.map written := by
      -- No line holds a newline, so the text is cut where it was put together.
      refine splitAt_intercalate hne fun line hline => ?_
      rcases List.mem_map.mp hline with ⟨e, he, rfl⟩
      intro hc
      rcases List.mem_append.mp hc with hc | hc
      · exact (h e he).2.1 hc
      · rcases List.mem_cons.mp hc with hc | hc
        · exact absurd hc (by decide)
        · exact (h e he).2.2 hc
    -- No line is empty, since each of them has its equals sign.
    have hnotEmpty : ¬ (['\n'].intercalate (vars.toList.map written)).isEmpty = true := by
      intro hc
      rw [List.isEmpty_iff.mp hc] at hcut
      have hnil : [] ∈ vars.toList.map written := hcut ▸ List.mem_singleton_self []
      rcases List.mem_map.mp hnil with ⟨e, _, he⟩
      exact absurd (List.append_eq_nil_iff.mp he).2 (List.cons_ne_nil _ _)
    rw [assignments?, if_neg hnotEmpty, hcut]
    exact lines?_written u fun e he => (h e he).1

end Unassigned

/-- The JSON rendering is one object with a member for each variable, in ascending order of the
names, and it stands for exactly the variables that were rendered. The lines are read back to
these variables if and only if each of them can be written as a line, whatever the reader does
with lines that have no equals sign. -/
theorem Rendering.reads_back (vars : Dict) :
    Json.read? (render .json vars) =
        some (.object (vars.toList.map fun e => (e.1, .text e.2))) ∧
      vars.names.Pairwise (· < ·) ∧
      (Json.read? (render .json vars)).bind Json.variables? = some vars ∧
      ∀ u : Unassigned, u.variables? (render .lines vars) = some vars ↔
        ∀ e ∈ vars.toList, IsLine e := by
  refine ⟨Json.read?_object vars, ?_, ?_, fun u => ⟨fun h e he => ?_, fun h => ?_⟩⟩
  · exact List.pairwise_map.mpr vars.ascending
  · rw [render, Json.read?_object, Option.bind_some, Json.variables?_membersOf]
  · rw [Unassigned.variables?, Option.map_eq_some_iff] at h
    rcases h with ⟨entries, hentries, rfl⟩
    exact Unassigned.isLine_of_mem hentries (Dict.mem_of_mem_ofList he)
  · rw [Unassigned.variables?, render, Unassigned.assignments?_written u h, Option.map_some,
      Dict.ofList_toList]

/-- A value of two lines is cut off after the first of them. -/
example : Unassigned.skip.variables? (Rendering.render .lines (.ofList [("A", "1\n2")])) =
    some (.ofList [("A", "1")]) := by
  decide +kernel

end EnvProfiles
