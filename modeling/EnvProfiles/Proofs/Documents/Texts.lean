import EnvProfiles.Proofs.Decimal.Shortest
import EnvProfiles.Yaml.Value

/-!
# The Texts of Words

What the text of a single word of a document is: of a null, a truth value, a
number or a text. It is told by rules that do not compute anything, and these are
shown to give each word one text, and the one that is written.

A whole number is its decimal numeral. A number with a point is the shortest
decimal form, whose digits are laid out by the power of ten of the first one:
with zeros up to the point, with the point among them, with zeros behind the
point, or with an exponent.

## Main definitions

* `LaidOut`: How digits are laid out.
* `Spells`: The text of a number of the binary format.
* `Yaml.Value.HasText`: The text of a single word.

## Theorems

* `laidOut_iff`, `spells_iff`: What is written is laid out and spelled so.
* `Yaml.Value.hasText_iff`: The text of a word is the one that is written.
-/

namespace EnvProfiles

open Shortest (IsShortest digits)
open Yaml (Value)
open Yaml.Value (floatLayout)

/-- Digits as they are laid out if the first one has a given power of ten. From a hundred-thousandth
on and below `10 ^ 16` there is no exponent. -/
inductive LaidOut : List Char → ℤ → List Char → Prop
  | whole {ds : List Char} {zeros power : ℕ} : power ≤ 15 → ds.length + zeros = power + 1 →
    LaidOut ds power (ds ++ List.replicate zeros '0' ++ ['.', '0'])
  | point {front back : List Char} {power : ℕ} : power ≤ 15 → front.length = power + 1 →
    back ≠ [] → LaidOut (front ++ back) power (front ++ '.' :: back)
  | small {ds : List Char} {zeros : ℕ} : zeros < 5 →
    LaidOut ds (-(zeros + 1 : ℕ)) ('0' :: '.' :: List.replicate zeros '0' ++ ds)
  | single {d : Char} {power : ℤ} {exponent : List Char} : power < -5 ∨ 15 < power →
    IsSigned power exponent → LaidOut [d] power (d :: 'e' :: exponent)
  | several {d : Char} {ds : List Char} {power : ℤ} {exponent : List Char} :
    power < -5 ∨ 15 < power → ds ≠ [] → IsSigned power exponent →
    LaidOut (d :: ds) power (d :: '.' :: ds ++ 'e' :: exponent)

variable {ds cs : List Char} {power : ℤ} {s : String}

theorem positional_iff : floatLayout.positional power = true ↔ -5 ≤ power ∧ power ≤ 15 := by
  unfold floatLayout
  rw [Bool.and_eq_true, decide_eq_true_iff, decide_eq_true_iff]

/-- Digits with a point in them, or with zeros. -/
theorem place_toList (ds : List Char) (power : ℤ) : (floatLayout.place ds power).toList =
    if power < 0 then '0' :: '.' :: List.replicate (-power - 1).toNat '0' ++ ds
    else if ds.length ≤ power.toNat + 1 then
      ds ++ List.replicate (power.toNat + 1 - ds.length) '0' ++ ['.', '0']
    else ds.take (power.toNat + 1) ++ '.' :: ds.drop (power.toNat + 1) := by
  unfold Layout.place
  dsimp only
  split
  · rw [String.toList_append, String.toList_ofList, String.toList_ofList]
    rfl
  · split
    · rw [String.toList_append, String.toList_ofList]
      rfl
    · rw [String.toList_ofList]

theorem arrange_of_positional (h : -5 ≤ power ∧ power ≤ 15) :
    floatLayout.arrange ds power = floatLayout.place ds power := by
  unfold Layout.arrange
  rw [if_pos (positional_iff.mpr h)]

theorem arrange_of_not_positional {d : Char} (h : power < -5 ∨ 15 < power) :
    (floatLayout.arrange (d :: ds) power).toList =
      d :: (if ds = [] then [] else '.' :: ds) ++ 'e' :: (toString power).toList := by
  have hpositional : ¬ floatLayout.positional power = true := fun hc => by
    have hc := positional_iff.mp hc
    omega
  unfold Layout.arrange
  rw [if_neg hpositional]
  cases ds with
  | nil =>
      dsimp only
      rw [String.toList_append, String.toList_append, String.toList_ofList]
      rfl
  | cons c ds =>
      dsimp only
      rw [String.toList_append, String.toList_append, String.toList_ofList, List.append_assoc]
      rfl

/-- Digits are laid out in one way only, and are written so. -/
theorem laidOut_iff (hne : ds ≠ []) :
    LaidOut ds power cs ↔ (floatLayout.arrange ds power).toList = cs := by
  constructor
  · rintro (⟨hpower, hlength⟩ | ⟨hpower, hlength, hback⟩ | hzeros | ⟨hpower, hexponent⟩ |
      ⟨hpower, hds, hexponent⟩)
    · rw [arrange_of_positional (by omega), place_toList, if_neg (by omega), if_pos (by omega)]
      congr 3
      omega
    · have hpos := List.length_pos_iff.mpr hback
      rw [arrange_of_positional (by omega), place_toList, if_neg (by omega),
        if_neg (by rw [List.length_append]; omega), Int.toNat_natCast, ← hlength,
        List.take_left, List.drop_left]
    · rw [arrange_of_positional (by omega), place_toList, if_pos (by omega)]
      congr 4
      omega
    · rw [arrange_of_not_positional hpower, isSigned_iff.mp hexponent]
      rfl
    · rw [arrange_of_not_positional hpower, isSigned_iff.mp hexponent, if_neg hds]
  · rintro rfl
    by_cases hpower : -5 ≤ power ∧ power ≤ 15
    · rw [arrange_of_positional hpower, place_toList]
      split
      next hneg =>
        -- The form is settled by the power, and by whether the digits reach beyond the point.
        obtain ⟨zeros, rfl⟩ : ∃ zeros : ℕ, power = -(zeros + 1 : ℕ) :=
          ⟨(-power - 1).toNat, by omega⟩
        rw [show (-(-((zeros + 1 : ℕ) : ℤ)) - 1).toNat = zeros by omega]
        exact .small (by omega)
      next hneg =>
        obtain ⟨n, rfl⟩ : ∃ n : ℕ, power = n := ⟨power.toNat, by omega⟩
        rw [Int.toNat_natCast]
        split
        next hlength => exact .whole (by omega) (by omega)
        next hlength =>
          have hsplit := List.take_append_drop (n + 1) ds
          have hpoint := @LaidOut.point (ds.take (n + 1)) (ds.drop (n + 1)) n (by omega)
            (by rw [List.length_take]; omega)
            (by rw [ne_eq, List.drop_eq_nil_iff]; omega)
          rwa [hsplit] at hpoint
    · have hpower : power < -5 ∨ 15 < power := by omega
      have hexponent : IsSigned power (toString power).toList := isSigned_iff.mpr rfl
      cases ds with
      | nil => exact absurd rfl hne
      | cons d ds =>
          rw [arrange_of_not_positional hpower]
          by_cases hds : ds = []
          · rw [if_pos hds, hds]
            exact .single hpower hexponent
          · rw [if_neg hds]
            exact .several hpower hds hexponent

/-- The text of a number of the binary format. -/
inductive Spells : Double → String → Prop
  | nan : Spells .nan ".nan"
  | infinite : Spells (.infinite false) ".inf"
  | negInfinite : Spells (.infinite true) "-.inf"
  | zero {e : ℤ} {h : Double.Regular 0 e} : Spells (.finite false 0 e h) "0.0"
  | negZero {e : ℤ} {h : Double.Regular 0 e} : Spells (.finite true 0 e h) "-0.0"
  | positive {m d : ℕ} {e power : ℤ} {h : Double.Regular m e} {ds : List Char} {s : String} :
    m ≠ 0 → IsShortest m e d (power + 1 - ds.length) → IsNumeral d ds →
    LaidOut ds power s.toList → Spells (.finite false m e h) s
  | negative {m d : ℕ} {e power : ℤ} {h : Double.Regular m e} {ds : List Char} {s : String} :
    m ≠ 0 → IsShortest m e d (power + 1 - ds.length) → IsNumeral d ds →
    LaidOut ds power s.toList → Spells (.finite true m e h) ("-" ++ s)

section Positive

variable {m d : ℕ} {e : ℤ} (h : Double.Regular m e) (hm : m ≠ 0)

include h hm

/-- The digits that are written are those of the shortest form. -/
theorem digits_eq (hshort : IsShortest m e d (power + 1 - ds.length)) (hds : IsNumeral d ds) :
    digits m e = (ds, power) := by
  -- What is written is a shortest form as well, and there is only one.
  obtain ⟨c, hc, hwritten⟩ := Shortest.isShortest_digits h hm
  obtain ⟨rfl, hpower⟩ := hshort.unique h hm hwritten
  rw [isNumeral_iff.mp hds] at hc
  rw [← hc] at hpower
  exact Prod.ext hc.symm (by omega)

theorem laidOut_arrange :
    ∃ d, IsShortest m e d ((digits m e).2 + 1 - (digits m e).1.length) ∧
      IsNumeral d (digits m e).1 ∧
      LaidOut (digits m e).1 (digits m e).2
        (floatLayout.arrange (digits m e).1 (digits m e).2).toList := by
  obtain ⟨d, hd, hshort⟩ := Shortest.isShortest_digits h hm
  have hnumeral := isNumeral_iff.mpr hd
  exact ⟨d, hshort, hnumeral, (laidOut_iff hnumeral.ne_nil).mpr rfl⟩

end Positive

theorem text_finite (negative : Bool) {m : ℕ} {e : ℤ} (h : Double.Regular m e) (hm : m ≠ 0) :
    (Double.finite negative m e h).text floatLayout =
      (if negative then "-" else "") ++ floatLayout.arrange (digits m e).1 (digits m e).2 := by
  rw [Double.text, if_neg (beq_iff_eq.not.mpr hm)]

/-- A number is spelled in one way only, and is written so. -/
theorem spells_iff {x : Double} : Spells x s ↔ x.text floatLayout = s := by
  constructor
  · intro hs
    cases hs with
    | nan | infinite | negInfinite | zero | negZero => rfl
    | @positive m d e power h ds s hm hshort hds hlaid =>
        rw [text_finite false h hm, digits_eq h hm hshort hds]
        exact (String.empty_append).trans (String.toList_inj.mp ((laidOut_iff hds.ne_nil).mp hlaid))
    | @negative m d e power h ds s hm hshort hds hlaid =>
        rw [text_finite true h hm, digits_eq h hm hshort hds]
        exact congrArg ("-" ++ ·) (String.toList_inj.mp ((laidOut_iff hds.ne_nil).mp hlaid))
  · rintro rfl
    cases x with
    | nan => exact .nan
    | infinite negative =>
        cases negative with
        | false => exact .infinite
        | true => exact .negInfinite
    | finite negative m e h =>
        -- A zero has a spelling of its own, for it has no shortest form.
        by_cases hm : m = 0
        · subst hm
          cases negative with
          | false => exact .zero
          | true => exact .negZero
        · obtain ⟨d, hshort, hds, hlaid⟩ := laidOut_arrange h hm
          rw [text_finite negative h hm]
          cases negative with
          | false =>
              refine .positive hm hshort hds ?_
              rwa [if_neg Bool.false_ne_true, String.empty_append]
          | true => exact .negative hm hshort hds hlaid

namespace Yaml.Value

/-- The text of a single word. -/
inductive HasText : Value → String → Prop
  | null : HasText .null ""
  | isTrue : HasText (.bool true) "true"
  | isFalse : HasText (.bool false) "false"
  | int {n : ℤ} {s : String} : IsSigned n s.toList → HasText (.int n) s
  | float {x : Double} {s : String} : Spells x s → HasText (.float x) s
  | text {s : String} : HasText (.text s) s

/-- The text of a word is the one that is written, and there is no other. -/
theorem hasText_iff {v : Value} {s : String} : v.HasText s ↔ v.scalarText? = some s := by
  constructor
  · rintro (_ | _ | _ | hs | hs | _)
    · rfl
    · rfl
    · rfl
    · exact congrArg some (String.toList_inj.mp (isSigned_iff.mp hs))
    · exact congrArg some (spells_iff.mp hs)
    · rfl
  · intro h
    cases v with
    | null => exact Option.some.inj h ▸ .null
    | bool b =>
        cases b with
        | false => exact Option.some.inj h ▸ .isFalse
        | true => exact Option.some.inj h ▸ .isTrue
    | int n => exact .int (isSigned_iff.mpr (congrArg String.toList (Option.some.inj h)))
    | float x => exact .float (spells_iff.mpr (Option.some.inj h))
    | text t => exact Option.some.inj h ▸ .text
    | sequence _ | mapping _ | tagged _ _ => exact nomatch h

theorem hasText_unique {v : Value} {t : String} (h : v.HasText s) (h' : v.HasText t) : s = t :=
  Option.some.inj ((hasText_iff.mp h).symm.trans (hasText_iff.mp h'))

end Yaml.Value

end EnvProfiles
