import Mathlib.Tactic.IntervalCases
import Mathlib.Tactic.SplitIfs
import PictureFrame.Basic

set_option autoImplicit false

namespace PictureFrame

namespace Numeral

def HexDigit (c : Char) (value : Nat) : Prop :=
  "0123456789abcdef".toList[value]? = some c ∨ "0123456789ABCDEF".toList[value]? = some c

theorem hexDigit_iff {c : Char} {value : Nat} : HexDigit c value ↔
    c.toNat = 48 + value ∧ value < 10 ∨
      (c.toNat = 55 + value ∨ c.toNat = 87 + value) ∧ 10 ≤ value ∧ value < 16 := by
  constructor
  · intro h
    have hlt : value < 16 := by
      rcases h with h | h <;> exact (List.getElem?_eq_some_iff.1 h).1
    interval_cases value <;> rcases h with h | h <;> cases h <;> decide
  · intro h
    have hcode : ∀ n, c.toNat = n → c = Char.ofNat n := fun n hn => by rw [← hn, Char.ofNat_toNat]
    rcases h with ⟨hc, hlt⟩ | ⟨hc | hc, hlow, hlt⟩
    · rw [hcode _ hc]
      interval_cases value <;> exact .inl rfl
    · rw [hcode _ hc]
      interval_cases value <;> exact .inr rfl
    · rw [hcode _ hc]
      interval_cases value <;> exact .inl rfl

theorem HexDigit.ascii {c : Char} {value : Nat} (h : HexDigit c value) : c.toNat < 128 := by
  rw [hexDigit_iff] at h
  omega

theorem HexDigit.ne_sign {c : Char} {value : Nat} (h : HexDigit c value) : c ≠ '#' ∧ c ≠ '+' := by
  rw [hexDigit_iff] at h
  have hcodes : '#'.toNat = 35 ∧ '+'.toNat = 43 := by decide
  constructor
  · rintro rfl
    omega
  · rintro rfl
    omega

theorem digit?_eq_some_iff {c : Char} {value : Nat} :
    digit? 16 c = some value ↔ HexDigit c value := by
  have hle : ∀ a b : Char, a ≤ b ↔ a.toNat ≤ b.toNat := fun _ _ => Iff.rfl
  have hcodes : '0'.toNat = 48 ∧ '9'.toNat = 57 ∧ 'A'.toNat = 65 ∧ 'Z'.toNat = 90 ∧
      'a'.toNat = 97 ∧ 'z'.toNat = 122 := by decide
  rw [hexDigit_iff, digit?]
  simp only [hle]
  split_ifs <;> simp only [Option.some.injEq, false_iff] <;> omega

theorem digits?_one_iff {c : Char} {value : Nat} :
    digits? 16 [c] = some value ↔ HexDigit c value := by
  simp only [digits?, digitsFrom?, Option.bind_eq_bind, Option.bind_eq_some_iff,
    digit?_eq_some_iff, Option.some.injEq, Nat.zero_mul, Nat.zero_add, exists_eq_right]

theorem digits?_two_iff {c d : Char} {value : Nat} : digits? 16 [c, d] = some value ↔
    ∃ high low, HexDigit c high ∧ HexDigit d low ∧ value = high * 16 + low := by
  simp only [digits?, digitsFrom?, Option.bind_eq_bind, Option.bind_eq_some_iff,
    digit?_eq_some_iff, Option.some.injEq, Nat.zero_mul, Nat.zero_add]
  constructor
  · rintro ⟨high, hhigh, low, hlow, rfl⟩
    exact ⟨high, low, hhigh, hlow, rfl⟩
  · rintro ⟨high, low, hhigh, hlow, rfl⟩
    exact ⟨high, hhigh, low, hlow, rfl⟩

end Numeral

namespace Color

open Numeral (HexDigit)

inductive Pair : List Char → Nat → Prop
  | digits {c d : Char} {high low : Nat} (first : HexDigit c high) (second : HexDigit d low) :
      Pair [c, d] (high * 16 + low)

/-- What is read as a component: a pair of digits, or a plus sign and one digit. -/
inductive Component : List Char → Nat → Prop
  | pair {part : List Char} {value : Nat} (digits : Pair part value) : Component part value
  | plus {d : Char} {value : Nat} (digit : HexDigit d value) : Component ['+', d] value

variable {part : List Char} {value : Nat} {c d : Char}

theorem pair_iff : Pair [c, d] value ↔ Numeral.digits? 16 [c, d] = some value := by
  rw [Numeral.digits?_two_iff]
  constructor
  · intro h
    cases h with
    | digits first second => exact ⟨_, _, first, second, rfl⟩
  · rintro ⟨high, low, hhigh, hlow, rfl⟩
    exact .digits hhigh hlow

theorem Pair.no_sign (h : Pair part value) : '#' ∉ part ∧ '+' ∉ part := by
  cases h with
  | digits first second =>
    simp [first.ne_sign.1.symm, first.ne_sign.2.symm, second.ne_sign.1.symm, second.ne_sign.2.symm]

theorem Component.no_sign (h : Component part value) :
    '#' ∉ part ∧ ('+' ∉ part ↔ Pair part value) := by
  cases h with
  | pair digits => exact ⟨digits.no_sign.1, iff_of_true digits.no_sign.2 digits⟩
  | plus digit =>
    refine ⟨by simp [digit.ne_sign.1.symm], iff_of_false (by simp) ?_⟩
    intro h
    exact h.no_sign.2 List.mem_cons_self

theorem Component.exists_chars (h : Component part value) :
    ∃ c d, part = [c, d] ∧ c.toNat < 128 ∧ d.toNat < 128 ∧ c ≠ '#' := by
  cases h with
  | pair digits =>
    cases digits with
    | digits first second => exact ⟨_, _, rfl, first.ascii, second.ascii, first.ne_sign.1⟩
  | plus digit => exact ⟨_, _, rfl, by decide, digit.ascii, by decide⟩

theorem component_plus_iff : Component ['+', d] value ↔ HexDigit d value := by
  constructor
  · intro h
    cases h with
    | pair digits => exact absurd List.mem_cons_self digits.no_sign.2
    | plus digit => exact digit
  · exact .plus

theorem component_iff_of_ne (h : c ≠ '+') : Component [c, d] value ↔ Pair [c, d] value := by
  constructor
  · intro hpart
    cases hpart with
    | pair digits => exact digits
    | plus digit => exact absurd rfl h
  · exact .pair

theorem unsigned?_iff :
    Numeral.unsigned? 16 255 [c, d] = some value ↔ Component [c, d] value ∧ value ≤ 255 := by
  have hbounded : ∀ read : Option Nat, (read.bind fun n => if n ≤ 255 then some n else none) =
      some value ↔ read = some value ∧ value ≤ 255 := by
    intro read
    rw [Option.bind_eq_some_iff]
    constructor
    · rintro ⟨n, hread, hn⟩
      split_ifs at hn with hle
      cases hn
      exact ⟨hread, hle⟩
    · rintro ⟨hread, hle⟩
      exact ⟨value, hread, if_pos hle⟩
  by_cases hplus : c = '+'
  · subst hplus
    rw [component_plus_iff, ← Numeral.digits?_one_iff]
    exact hbounded (Numeral.digits? 16 [d])
  · rw [component_iff_of_ne hplus, pair_iff, ← hbounded]
    simp [Numeral.unsigned?, hplus]

theorem component?_eq_some_iff {byte : UInt8} :
    component? c d = some byte ↔ Component [c, d] byte.toNat := by
  rw [component?, Option.map_eq_some_iff]
  constructor
  · rintro ⟨n, hn, rfl⟩
    obtain ⟨hpart, hle⟩ := unsigned?_iff.1 hn
    rwa [UInt8.toNat_ofNat_of_lt' (Nat.lt_succ_of_le hle)]
  · intro h
    exact ⟨byte.toNat, unsigned?_iff.2 ⟨h, Nat.le_of_lt_succ byte.toNat_lt⟩, UInt8.ofNat_toNat⟩

/-- So many number signs and three parts of one kind, with the colour of full alpha that they give. -/
inductive Spells (kind : List Char → Nat → Prop) (signs : Nat) : List Char → Color → Prop
  | parts {r g b : List Char} {red green blue : UInt8} (first : kind r red.toNat)
      (second : kind g green.toNat) (third : kind b blue.toNat) :
      Spells kind signs (List.replicate signs '#' ++ (r ++ g ++ b)) (solid red green blue)

/-- The written form of a colour. -/
def Standard (text : String) (color : Color) : Prop :=
  Spells Pair 0 text.toList color ∨ Spells Pair 1 text.toList color

variable {cs : List Char} {color : Color} {signs : Nat}

theorem Spells.count_eq (h : Spells Component signs cs color) : cs.count '#' = signs := by
  cases h with
  | parts first second third =>
    simp [List.count_append, List.count_eq_zero_of_not_mem first.no_sign.1,
      List.count_eq_zero_of_not_mem second.no_sign.1, List.count_eq_zero_of_not_mem third.no_sign.1]

theorem spells_pair_iff : Spells Pair signs cs color ↔ Spells Component signs cs color ∧ '+' ∉ cs := by
  constructor
  · intro h
    cases h with
    | parts first second third =>
      refine ⟨.parts (.pair first) (.pair second) (.pair third), ?_⟩
      simp [first.no_sign.2, second.no_sign.2, third.no_sign.2]
  · rintro ⟨h, hplus⟩
    cases h with
    | parts first second third =>
      simp only [List.mem_append, not_or] at hplus
      exact .parts (first.no_sign.2.1 hplus.2.1.1) (second.no_sign.2.1 hplus.2.1.2)
        (third.no_sign.2.1 hplus.2.2)

theorem standard_iff {text : String} : Standard text color ↔
    (Spells Component 0 text.toList color ∨ Spells Component 1 text.toList color) ∧
      '+' ∉ text.toList := by
  rw [Standard, spells_pair_iff, spells_pair_iff, or_and_right]

theorem Spells.after_signs (h : Spells Component 0 cs color) (signs : Nat) :
    Spells Component signs (List.replicate signs '#' ++ cs) color := by
  cases h with
  | parts first second third => exact .parts first second third

/-- The characters after the signs are those of the components: no component begins with a sign. -/
theorem spells_dropWhile_iff :
    Spells Component 0 (cs.dropWhile (· = '#')) color ↔ ∃ signs, Spells Component signs cs color := by
  constructor
  · intro h
    have hsigns : cs.takeWhile (· = '#') =
        List.replicate (cs.takeWhile (· = '#')).length '#' := by
      rw [List.eq_replicate_iff]
      exact ⟨rfl, fun c hc => of_decide_eq_true (List.all_eq_true.1 List.all_takeWhile c hc)⟩
    have hafter := h.after_signs (cs.takeWhile (· = '#')).length
    rw [← hsigns, List.takeWhile_append_dropWhile] at hafter
    exact ⟨_, hafter⟩
  · rintro ⟨signs, h⟩
    cases h with
    | parts first second third =>
      obtain ⟨c, d, rfl, -, -, hc⟩ := first.exists_chars
      rw [List.dropWhile_append_of_pos (by simp)]
      simp only [List.cons_append, List.dropWhile_cons, hc, decide_false, Bool.false_eq_true,
        if_false]
      exact .parts first second third

theorem ofHex?_eq_some_iff {text : String} : ofHex? text = some color ↔
    Spells Component 0 (text.toList.dropWhile (· = '#')) color := by
  rw [ofHex?]
  generalize text.toList.dropWhile (· = '#') = digits
  constructor
  · intro h
    split_ifs at h with hascii
    split at h
    case h_1 r0 r1 g0 g1 b0 b1 =>
      obtain ⟨red, hred, h⟩ := Option.bind_eq_some_iff.1 h
      obtain ⟨green, hgreen, h⟩ := Option.bind_eq_some_iff.1 h
      obtain ⟨blue, hblue, h⟩ := Option.bind_eq_some_iff.1 h
      cases h
      exact .parts (component?_eq_some_iff.1 hred) (component?_eq_some_iff.1 hgreen)
        (component?_eq_some_iff.1 hblue)
    case h_2 => cases h
  · intro h
    cases h with
    | parts first second third =>
      obtain ⟨r0, r1, rfl, hr0, hr1, -⟩ := first.exists_chars
      obtain ⟨g0, g1, rfl, hg0, hg1, -⟩ := second.exists_chars
      obtain ⟨b0, b1, rfl, hb0, hb1, -⟩ := third.exists_chars
      simp [hr0, hr1, hg0, hg1, hb0, hb1, component?_eq_some_iff.2 first,
        component?_eq_some_iff.2 second, component?_eq_some_iff.2 third]

/-- What is read as a colour, and what of it is the written form of one: every text of this form is
read, and of the other texts those with more than one number sign or with a plus sign for a digit. -/
theorem hex_grammar (text : String) (color : Color) :
    (ofHex? text = some color ↔ ∃ signs, Spells Component signs text.toList color) ∧
    (Standard text color ↔
      ofHex? text = some color ∧ '+' ∉ text.toList ∧ text.toList.count '#' ≤ 1) := by
  have hread : ofHex? text = some color ↔ ∃ signs, Spells Component signs text.toList color :=
    ofHex?_eq_some_iff.trans spells_dropWhile_iff
  refine ⟨hread, ?_⟩
  rw [hread, standard_iff]
  constructor
  · rintro ⟨h | h, hplus⟩
    · exact ⟨⟨0, h⟩, hplus, by rw [h.count_eq]; decide⟩
    · exact ⟨⟨1, h⟩, hplus, by rw [h.count_eq]⟩
  · rintro ⟨⟨signs, h⟩, hplus, hcount⟩
    rw [h.count_eq] at hcount
    refine ⟨?_, hplus⟩
    interval_cases signs
    · exact .inl h
    · exact .inr h

theorem not_standard_of_ofHex? : ¬ ∀ (text : String) (color : Color),
    ofHex? text = some color ↔ Standard text color := by
  intro h
  have hstandard := (h "+F+F+F" (solid 15 15 15)).1 (by decide +kernel)
  exact (standard_iff.1 hstandard).2 (by decide)

end Color
end PictureFrame
