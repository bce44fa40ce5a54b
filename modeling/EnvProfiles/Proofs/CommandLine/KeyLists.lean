import EnvProfiles.Command.Run
import EnvProfiles.Proofs.Text.Cuts
import Mathlib.Data.List.TakeWhile

/-!
# Lists of Keys

The profiles of a request may be named in the request, key by key, or all at once
in a list that the environment holds. In such a list the keys stand between
commas, with as much white space around them as one likes, and where there is no
key between two commas nothing is meant by it.

What a list says is told without taking it apart: `Itemized` puts the items of a
list together from the keys. This leaves a list much freedom and its keys none.
Every text is a list of some keys, and of these only, because a key that is found
in a text could have been written there by itself: it is not empty, it has no
comma in it, and no white space at its ends. Keys that are not of this form
cannot be named in a list at all.

## Main definitions

* `IsTrimmed`: A text has no white space at its ends.
* `IsListable`: A key can be named in a list.
* `Itemized`: The items of a list name some keys.

## Theorems

* `trim_surrounded`, `exists_surroundings`: A text and the white space around it.
* `Itemized.splitKeys_eq`: A list says the keys that it was put together from.
* `exists_items`: Every text is put together from the keys that it says.
* `RunRequest.profileKeys_of_list`: A list of keys does what naming them does.
-/

namespace EnvProfiles

/-! ### White space around a text -/

/-- A text neither begins nor ends with white space. -/
structure IsTrimmed (cs : List Char) : Prop where
  first : ∀ c ∈ cs.head?, isSpace c = false
  last : ∀ c ∈ cs.getLast?, isSpace c = false

theorem isTrimmed_iff {cs : List Char} :
    IsTrimmed cs ↔ cs.head?.all (!isSpace ·) = true ∧ cs.getLast?.all (!isSpace ·) = true := by
  simp only [Option.all_eq_true, Bool.not_eq_true']
  exact ⟨fun h => ⟨h.first, h.last⟩, fun h => ⟨h.1, h.2⟩⟩

instance (cs : List Char) : Decidable (IsTrimmed cs) := decidable_of_iff' _ isTrimmed_iff

section Trim

variable {before cs after : List Char}

/-- Nothing is taken off a text that does not begin with white space. -/
theorem dropWhile_isSpace (h : ∀ c ∈ cs.head?, isSpace c = false) :
    cs.dropWhile isSpace = cs := by
  cases cs with
  | nil => rfl
  | cons c cs => exact List.dropWhile_cons_of_neg (Bool.eq_false_iff.mp (h c rfl))

theorem trim_of_all (h : ∀ c ∈ cs, isSpace c = true) : trim cs = [] := by
  have hstart : trimStart cs = [] := List.dropWhile_eq_nil_iff.mpr h
  rw [trim, hstart]
  rfl

/-- White space around a text that has none at its ends is taken off, and nothing else. -/
theorem trim_surrounded (hbefore : ∀ c ∈ before, isSpace c = true)
    (hafter : ∀ c ∈ after, isSpace c = true) (h : IsTrimmed cs) (hne : cs ≠ []) :
    trim (before ++ cs ++ after) = cs := by
  have hstart : trimStart (before ++ cs ++ after) = cs ++ after := by
    rw [trimStart, List.append_assoc, List.dropWhile_append_of_pos hbefore]
    refine dropWhile_isSpace fun c hc => h.first c ?_
    rwa [List.head?_append_of_ne_nil _ hne] at hc
  -- The end of a text is the start of the reversed one.
  have hend : cs.reverse.dropWhile isSpace = cs.reverse :=
    dropWhile_isSpace fun c hc => h.last c (List.head?_reverse ▸ hc)
  rw [trim, hstart, trimEnd, List.reverse_append,
    List.dropWhile_append_of_pos fun c hc => hafter c (List.mem_reverse.mp hc), hend,
    List.reverse_reverse]

/-- What a text begins with once it has lost its first white space. -/
theorem head?_trimStart (cs : List Char) : ∀ c ∈ (trimStart cs).head?, isSpace c = false := by
  intro c hc
  have h := List.head?_dropWhile_not isSpace cs
  rw [show (cs.dropWhile isSpace).head? = some c from hc] at h
  exact h

/-- What is taken off the end of a text is white space. -/
theorem exists_trimEnd_append (cs : List Char) :
    ∃ after, (∀ c ∈ after, isSpace c = true) ∧ cs = trimEnd cs ++ after := by
  refine ⟨(cs.reverse.takeWhile isSpace).reverse, fun c hc => ?_, ?_⟩
  · exact List.mem_takeWhile_imp (List.mem_reverse.mp hc)
  · rw [trimEnd, ← List.reverse_append, List.takeWhile_append_dropWhile, List.reverse_reverse]

/-- What is taken off a text is white space at its ends. -/
theorem exists_surroundings (cs : List Char) :
    ∃ before after, (∀ c ∈ before, isSpace c = true) ∧ (∀ c ∈ after, isSpace c = true) ∧
      cs = before ++ trim cs ++ after := by
  obtain ⟨after, hafter, hend⟩ := exists_trimEnd_append (trimStart cs)
  refine ⟨cs.takeWhile isSpace, after, fun c hc => List.mem_takeWhile_imp hc, hafter, ?_⟩
  rw [trim, List.append_assoc, ← hend, trimStart, List.takeWhile_append_dropWhile]

/-- What is left has no white space at its ends. -/
theorem isTrimmed_trim (cs : List Char) : IsTrimmed (trim cs) := by
  constructor
  · intro c hc
    -- What is taken off the end leaves the start as it is.
    obtain ⟨after, _, hend⟩ := exists_trimEnd_append (trimStart cs)
    refine head?_trimStart cs c ?_
    rw [hend]
    exact List.mem_head?_append_of_mem_head? hc
  · intro c hc
    refine head?_trimStart (trimStart cs).reverse c ?_
    rwa [trim, trimEnd, List.getLast?_reverse] at hc

end Trim

/-! ### Keys and items -/

/-- A key can be named in a list: it is not empty, it has no comma in it, and it neither begins nor
ends with white space. -/
structure IsListable (key : String) : Prop where
  ne_empty : key ≠ ""
  no_comma : ',' ∉ key.toList
  trimmed : IsTrimmed key.toList

instance (key : String) : Decidable (IsListable key) :=
  decidable_of_iff (key ≠ "" ∧ ',' ∉ key.toList ∧ IsTrimmed key.toList)
    ⟨fun h => ⟨h.1, h.2.1, h.2.2⟩, fun h => ⟨h.ne_empty, h.no_comma, h.trimmed⟩⟩

/-- The items of a list name some keys: each of the keys in its order, with white space around it,
and among them any number of items that are blank. -/
inductive Itemized : List String → List String → Prop where
  | nil : Itemized [] []
  | blank {item : String} {items keys : List String} : isBlankText item = true →
    Itemized items keys → Itemized (item :: items) keys
  | key {before key after : String} {items keys : List String} : isBlankText before = true →
    isBlankText after = true → Itemized items keys →
    Itemized ((before ++ key ++ after) :: items) (key :: keys)

namespace RunRequest

/-- The keys in the stretches between commas. -/
def keysIn (pieces : List (List Char)) : List String :=
  ((pieces.map trim).filter fun k => !k.isEmpty).map String.ofList

theorem splitKeys_eq (list : String) : splitKeys list = keysIn (splitAt ',' list.toList) := rfl

/-- There is no key in white space. -/
theorem keysIn_blank {piece : List Char} (h : trim piece = []) (pieces : List (List Char)) :
    keysIn (piece :: pieces) = keysIn pieces := by
  rw [keysIn, List.map_cons, h]
  rfl

/-- All else is a key, without the white space around it. -/
theorem keysIn_key {piece : List Char} (h : trim piece ≠ []) (pieces : List (List Char)) :
    keysIn (piece :: pieces) = String.ofList (trim piece) :: keysIn pieces := by
  have hkept : (!(trim piece).isEmpty) = true := by
    rw [List.isEmpty_eq_false_iff.mpr h, Bool.not_false]
  rw [keysIn, List.map_cons, List.filter_cons, if_pos hkept, List.map_cons]
  rfl

end RunRequest

theorem isBlankText_iff {text : String} :
    isBlankText text = true ↔ ∀ c ∈ text.toList, isSpace c = true :=
  List.all_eq_true

namespace Itemized

open RunRequest (keysIn splitKeys)

variable {items keys : List String}

/-- No item has a comma in it. -/
theorem no_comma (h : Itemized items keys) (hkeys : ∀ key ∈ keys, IsListable key) :
    ∀ item ∈ items, ',' ∉ item.toList := by
  -- A comma is no white space.
  have hblank : ∀ text, isBlankText text = true → ',' ∉ text.toList :=
    fun text htext hc => absurd (isBlankText_iff.mp htext ',' hc) (by decide)
  induction h with
  | nil => exact fun _ hitem => absurd hitem List.not_mem_nil
  | blank hb _ ih =>
      intro item hitem
      rcases List.mem_cons.mp hitem with rfl | hitem
      · exact hblank item hb
      · exact ih hkeys item hitem
  | @key before key after _ _ hbefore hafter _ ih =>
      intro item hitem
      rcases List.mem_cons.mp hitem with rfl | hitem
      · rw [String.toList_append, String.toList_append, List.mem_append, List.mem_append]
        rintro ((hc | hc) | hc)
        · exact hblank before hbefore hc
        · exact (hkeys key List.mem_cons_self).no_comma hc
        · exact hblank after hafter hc
      · exact ih (fun k hk => hkeys k (List.mem_cons_of_mem _ hk)) item hitem

/-- The keys are found in the items. -/
theorem keysIn_eq (h : Itemized items keys) (hkeys : ∀ key ∈ keys, IsListable key) :
    keysIn (items.map String.toList) = keys := by
  induction h with
  | nil => rfl
  | blank hb _ ih =>
      rw [List.map_cons, RunRequest.keysIn_blank (trim_of_all (isBlankText_iff.mp hb)), ih hkeys]
  | @key before key after _ _ hbefore hafter _ ih =>
      -- A key is its item without the white space around it.
      have hkey := hkeys key List.mem_cons_self
      have hne : key.toList ≠ [] := fun hc => hkey.ne_empty (String.toList_eq_nil_iff.mp hc)
      have htrim : trim (before ++ key ++ after).toList = key.toList := by
        rw [String.toList_append, String.toList_append]
        exact trim_surrounded (isBlankText_iff.mp hbefore) (isBlankText_iff.mp hafter)
          hkey.trimmed hne
      rw [List.map_cons, RunRequest.keysIn_key (htrim ▸ hne), htrim, String.ofList_toList,
        ih fun k hk => hkeys k (List.mem_cons_of_mem _ hk)]

/-- A list says the keys that it was put together from. -/
theorem splitKeys_eq (h : Itemized items keys) (hkeys : ∀ key ∈ keys, IsListable key) :
    splitKeys (",".intercalate items) = keys := by
  by_cases hnil : items = []
  · -- A list without items is the empty text, which is cut into one blank stretch.
    subst hnil
    cases h
    rfl
  · have hcut : splitAt ',' ([','].intercalate (items.map String.toList))
        = items.map String.toList := by
      refine splitAt_intercalate (fun hc => hnil (List.map_eq_nil_iff.mp hc)) fun piece hp => ?_
      obtain ⟨item, hitem, rfl⟩ := List.mem_map.mp hp
      exact h.no_comma hkeys item hitem
    rw [RunRequest.splitKeys_eq, String.toList_intercalate, show ",".toList = [','] from rfl, hcut,
      h.keysIn_eq hkeys]

/-- Keys are the items of a list of them. -/
theorem self (keys : List String) : Itemized keys keys := by
  induction keys with
  | nil => exact .nil
  | cons key keys ih =>
      have h : Itemized (("" ++ key ++ "") :: keys) (key :: keys) := .key rfl rfl ih
      rwa [String.empty_append, String.append_empty] at h

end Itemized

/-- What a request comes to depends on its keys and on the list of keys only in so far as they name
the profiles that are wanted. -/
theorem Command.run_congr {r : RunRequest} {keys : List String} {list other : Option String}
    (h : r.profileKeys list = { r with keys := keys }.profileKeys other) (settings : Settings)
    (home : String) (host : Host) (outer : Dict) (fs : FileSystem) :
    run settings home r list host outer fs =
      run settings home { r with keys := keys } other host outer fs := by
  have haction : { r with keys := keys }.action = r.action := rfl
  simp only [run, plan, haction, h]

namespace RunRequest

/-! ### Every text is a list -/

/-- Stretches of text are the items of the keys in them. -/
theorem itemized_keysIn (pieces : List (List Char)) :
    Itemized (pieces.map String.ofList) (keysIn pieces) := by
  induction pieces with
  | nil => exact .nil
  | cons piece pieces ih =>
      -- A stretch is white space around a key, or nothing but white space.
      obtain ⟨before, after, hbefore, hafter, hpiece⟩ := exists_surroundings piece
      by_cases h : trim piece = []
      · have hblank : isBlankText (String.ofList piece) = true := by
          rw [isBlankText_iff, String.toList_ofList, hpiece, h, List.append_nil]
          exact fun c hc => (List.mem_append.mp hc).elim (hbefore c) (hafter c)
        rw [keysIn_blank h]
        exact .blank hblank ih
      · have hitem : String.ofList piece
            = String.ofList before ++ String.ofList (trim piece) ++ String.ofList after := by
          rw [← String.ofList_append, ← String.ofList_append, ← hpiece]
        rw [keysIn_key h, List.map_cons, hitem]
        refine .key ?_ ?_ ih
        · rwa [isBlankText_iff, String.toList_ofList]
        · rwa [isBlankText_iff, String.toList_ofList]

/-- Every text is put together from the keys that it says. -/
theorem exists_items (list : String) :
    ∃ items, Itemized items (splitKeys list) ∧ list = ",".intercalate items := by
  refine ⟨(splitAt ',' list.toList).map String.ofList, itemized_keysIn _, ?_⟩
  have hpieces : ((splitAt ',' list.toList).map String.ofList).map String.toList
      = splitAt ',' list.toList := by
    rw [List.map_map]
    exact (List.map_congr_left fun _ _ => String.toList_ofList).trans (List.map_id _)
  rw [← String.toList_inj, String.toList_intercalate, hpieces]
  exact (intercalate_splitAt ',' list.toList).symm

/-- Whatever text is a list of keys, they can be named in a list. -/
theorem isListable_of_mem_splitKeys {list key : String} (h : key ∈ splitKeys list) :
    IsListable key := by
  rw [splitKeys_eq, keysIn, List.mem_map] at h
  obtain ⟨cs, hcs, rfl⟩ := h
  obtain ⟨hmem, hkept⟩ := List.mem_filter.mp hcs
  obtain ⟨piece, hpiece, rfl⟩ := List.mem_map.mp hmem
  refine ⟨fun hc => ?_, ?_, ?_⟩
  · rw [String.ofList_eq_empty_iff.mp hc] at hkept
    exact nomatch hkept
  · -- The key is a part of a stretch, and no stretch has a comma in it.
    rw [String.toList_ofList]
    obtain ⟨before, after, _, _, hparts⟩ := exists_surroundings piece
    intro hc
    refine not_mem_of_mem_splitAt hpiece ?_
    rw [hparts]
    exact List.mem_append_left _ (List.mem_append_right _ hc)
  · rw [String.toList_ofList]
    exact isTrimmed_trim piece

/-- A request that names no key has those that a list says. -/
theorem profileKeys_list {r : RunRequest} (h : r.keys = []) (list : String) :
    r.profileKeys (some list) = splitKeys list := by
  rw [profileKeys, h]
  rfl

/-- If a request names keys, no list makes a difference. -/
theorem profileKeys_named {r : RunRequest} (h : r.keys ≠ []) (list : Option String) :
    r.profileKeys list = r.keys := by
  rw [profileKeys, if_neg fun hc => h (List.isEmpty_iff.mp hc)]

/-- Without a list there are the keys that a request names. -/
theorem profileKeys_none (r : RunRequest) : r.profileKeys none = r.keys := by
  by_cases h : r.keys = []
  · rw [profileKeys, h]
    rfl
  · exact profileKeys_named h none

/-- A list of keys does what naming them does. If a request names no keys and there is a list that
was put together from some, with commas, white space and blank items, then the profiles that are
wanted are exactly these, as if the request had named them, and what it comes to is the same. (As
soon as a request names a key, no list makes a difference; a request that names none cannot be told
from one that relies on the list.) Every list says only keys that can be named in a list, and is one
that was put together from the keys that it says; a list of these keys says them again. -/
theorem profileKeys_of_list (r : RunRequest) (hr : r.keys = []) :
    (∀ keys items, (∀ key ∈ keys, IsListable key) → Itemized items keys →
      r.profileKeys (some (",".intercalate items)) = keys ∧
      (∀ named : RunRequest, named.keys = keys → named.profileKeys none = keys ∧
        (keys ≠ [] → ∀ other, named.profileKeys other = keys)) ∧
      (keys ≠ [] → ∀ other settings home host outer fs,
        Command.run settings home r (some (",".intercalate items)) host outer fs =
          Command.run settings home { r with keys := keys } other host outer fs)) ∧
    ∀ list,
      (∀ key ∈ r.profileKeys (some list), IsListable key) ∧
      (∃ items, Itemized items (r.profileKeys (some list)) ∧ list = ",".intercalate items) ∧
      r.profileKeys (some (",".intercalate (r.profileKeys (some list)))) =
        r.profileKeys (some list) := by
  refine ⟨fun keys items hkeys hitems => ?_, fun list => ?_⟩
  · have hlist : r.profileKeys (some (",".intercalate items)) = keys := by
      rw [profileKeys_list hr, hitems.splitKeys_eq hkeys]
    -- What is left compares two requests, of which the other one has no use for a list.
    refine ⟨hlist, fun named hnamed => ⟨?_, fun hne other => ?_⟩, fun hne other => ?_⟩
    · rw [profileKeys_none, hnamed]
    · rw [profileKeys_named (hnamed ▸ hne), hnamed]
    · refine Command.run_congr (hlist.trans ?_)
      exact (profileKeys_named (r := { r with keys := keys }) hne other).symm
  · have hkeys : ∀ key ∈ splitKeys list, IsListable key := fun _ => isListable_of_mem_splitKeys
    rw [profileKeys_list hr, profileKeys_list hr]
    -- The keys that are found are again keys that a list can be put together from.
    exact ⟨hkeys, exists_items list, (Itemized.self _).splitKeys_eq hkeys⟩

/-- A list with a blank item at its start, one between its keys that is an ideographic space, and
other white space around the keys. -/
theorem profileKeys_of_list_spaced :
    let r : RunRequest := ⟨[], false, false, false, ["make"]⟩
    let items := ["", " " ++ "base" ++ "", "\u3000", "" ++ "dev" ++ "\t"]
    r.keys = [] ∧ (∀ key ∈ ["base", "dev"], IsListable key) ∧ Itemized items ["base", "dev"] ∧
      ",".intercalate items = ", base,\u3000,dev\t" ∧
      r.profileKeys (some ", base,\u3000,dev\t") = ["base", "dev"] ∧
      { r with keys := ["base", "dev"] }.profileKeys (some "other") = ["base", "dev"] := by
  intro r items
  have hkeys : ∀ key ∈ ["base", "dev"], IsListable key := by decide
  have hitems : Itemized items ["base", "dev"] :=
    .blank rfl (.key rfl rfl (.blank rfl (.key rfl rfl .nil)))
  have htext : ",".intercalate items = ", base,\u3000,dev\t" := by decide
  obtain ⟨hlist, hnamed, _⟩ := (profileKeys_of_list r rfl).1 _ items hkeys hitems
  refine ⟨rfl, hkeys, hitems, htext, htext ▸ hlist, ?_⟩
  exact (hnamed { r with keys := ["base", "dev"] } rfl).2 (List.cons_ne_nil _ _) (some "other")

end RunRequest

end EnvProfiles
