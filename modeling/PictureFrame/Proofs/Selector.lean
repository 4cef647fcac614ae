import Mathlib.Tactic.SplitIfs
import PictureFrame.Frame

set_option autoImplicit false

namespace PictureFrame.Selector

theorem toList_loop_eq (bytes : ByteArray) (i : Nat) (done : List UInt8) :
    ByteArray.toList.loop bytes i done = done.reverse ++ bytes.data.toList.drop i := by
  fun_induction ByteArray.toList.loop bytes i done with
  | case1 i done h ih =>
    have hi : i < bytes.data.toList.length := h
    have hget : bytes.get! i = bytes.data.toList[i] :=
      (getElem!_pos bytes.data i h).trans (Array.getElem_toList h).symm
    rw [ih, List.reverse_cons, List.append_assoc, List.drop_eq_getElem_cons hi, hget]
    rfl
  | case2 i done h =>
    have hi : bytes.data.toList.length ≤ i := Nat.le_of_not_lt h
    rw [List.drop_eq_nil_of_le hi, List.append_nil]

theorem bytes_inj {s t : String} : s.toUTF8.toList = t.toUTF8.toList ↔ s = t := by
  constructor
  · intro h
    have hdata : s.toUTF8.data.toList = t.toUTF8.data.toList := by
      simpa only [ByteArray.toList, toList_loop_eq, List.reverse_nil, List.nil_append,
        List.drop_zero] using h
    exact String.toByteArray_inj.1 (ByteArray.ext (Array.toList_inj.1 hdata))
  · exact fun h => h ▸ rfl

/-- The text names the frame that has `index` frames before it. -/
def Names (text : String) (index : Fin 10) : Prop :=
  text = "usb" ++ toString index.val ∨ text = "dpf" ++ toString index.val

theorem usb_bytes : ∀ index : Fin 10, ("usb" ++ toString index.val).toUTF8.toList =
    [0x75, 0x73, 0x62, UInt8.ofNat (48 + index.val)] := by
  decide +kernel

theorem dpf_bytes : ∀ index : Fin 10, ("dpf" ++ toString index.val).toUTF8.toList =
    [0x64, 0x70, 0x66, UInt8.ofNat (48 + index.val)] := by
  decide +kernel

theorem isKind_iff {bytes : List UInt8} :
    isKind bytes = true ↔ bytes = [0x75, 0x73, 0x62] ∨ bytes = [0x64, 0x70, 0x66] := by
  have husb : "usb".toUTF8.toList = [0x75, 0x73, 0x62] := by decide +kernel
  have hdpf : "dpf".toUTF8.toList = [0x64, 0x70, 0x66] := by decide +kernel
  rw [isKind, husb, hdpf, decide_eq_true_eq]

theorem names_iff {text : String} {index : Fin 10} : Names text index ↔
    ∃ kind, isKind kind = true ∧ text.toUTF8.toList = kind ++ [UInt8.ofNat (48 + index.val)] := by
  simp only [isKind_iff, Names, ← bytes_inj, usb_bytes, dpf_bytes]
  constructor
  · intro h
    rcases h with h | h
    · exact ⟨_, .inl rfl, h⟩
    · exact ⟨_, .inr rfl, h⟩
  · intro h
    obtain ⟨kind, rfl | rfl, h⟩ := h
    · exact .inl h
    · exact .inr h

theorem digit_toNat (index : Fin 10) : (UInt8.ofNat (48 + index.val)).toNat = 48 + index.val := by
  rw [UInt8.toNat_ofNat']
  omega

theorem Names.parse_eq {text : String} {index : Fin 10} (h : Names text index) :
    parse text = .ok ⟨index⟩ := by
  obtain ⟨kind, hkind, hbytes⟩ := names_iff.1 h
  have hdigit := digit_toNat index
  have accepted : ∀ b0 b1 b2, isKind [b0, b1, b2] = true →
      text.toUTF8.toList = [b0, b1, b2, UInt8.ofNat (48 + index.val)] →
      parse text = .ok ⟨index⟩ := by
    intro b0 b1 b2 hkind hbytes
    simp only [parse, hbytes]
    rw [dif_pos ⟨hkind, by omega, by omega⟩]
    simp only [hdigit, Nat.add_sub_cancel_left]
  rcases isKind_iff.1 hkind with rfl | rfl
  · exact accepted _ _ _ hkind hbytes
  · exact accepted _ _ _ hkind hbytes

theorem parse_eq_error {text : String} (h : ¬ ∃ index, Names text index) :
    parse text = .error (.selector text) := by
  rw [parse]
  split
  case h_1 b0 b1 b2 b3 hbytes =>
    refine dif_neg ?_
    intro haccepted
    obtain ⟨hkind, hlow, hhigh⟩ := haccepted
    refine h ⟨⟨b3.toNat - 48, by omega⟩, names_iff.2 ⟨[b0, b1, b2], hkind, ?_⟩⟩
    have hdigit : UInt8.ofNat (48 + (b3.toNat - 48)) = b3 := by
      rw [Nat.add_sub_cancel' hlow, UInt8.ofNat_toNat]
    rw [hbytes, hdigit]
    rfl
  case h_2 => rfl

theorem parse_eq_ok_iff {text : String} {s : Selector} :
    parse text = .ok s ↔ Names text s.index := by
  constructor
  · intro h
    by_cases hnamed : ∃ index, Names text index
    · obtain ⟨index, hindex⟩ := hnamed
      cases hindex.parse_eq.symm.trans h
      exact hindex
    · cases (parse_eq_error hnamed).symm.trans h
  · exact Names.parse_eq

theorem Names.unique {text : String} {i j : Fin 10} (hi : Names text i) (hj : Names text j) :
    i = j := by
  cases hi.parse_eq.symm.trans hj.parse_eq
  rfl

def Spelled (text : String) (digit : Char) : Prop :=
  digit.isDigit = true ∧
    (text.toList = ['u', 's', 'b', digit] ∨ text.toList = ['d', 'p', 'f', digit])

theorem usb_chars : ∀ index : Fin 10, ("usb" ++ toString index.val).toList =
    ['u', 's', 'b', Char.ofNat (48 + index.val)] := by
  decide +kernel

theorem dpf_chars : ∀ index : Fin 10, ("dpf" ++ toString index.val).toList =
    ['d', 'p', 'f', Char.ofNat (48 + index.val)] := by
  decide +kernel

theorem isDigit_ofNat : ∀ index : Fin 10, (Char.ofNat (48 + index.val)).isDigit = true ∧
    (Char.ofNat (48 + index.val)).toNat = 48 + index.val := by
  decide +kernel

theorem toNat_of_isDigit {digit : Char} (h : digit.isDigit = true) :
    48 ≤ digit.toNat ∧ digit.toNat ≤ 57 := by
  rw [Char.isDigit, Bool.and_eq_true, decide_eq_true_eq, decide_eq_true_eq] at h
  exact h

theorem value_inj {digit digit' : Char} (h : digit.isDigit = true) (h' : digit'.isDigit = true) :
    digit.toNat - '0'.toNat = digit'.toNat - '0'.toNat ↔ digit = digit' := by
  obtain ⟨hlow, -⟩ := toNat_of_isDigit h
  obtain ⟨hlow', -⟩ := toNat_of_isDigit h'
  rw [← Char.toNat_inj, show '0'.toNat = 48 from rfl]
  omega

theorem ext_iff {s s' : Selector} : s = s' ↔ s.index = s'.index := by
  cases s
  cases s'
  rw [Selector.mk.injEq]

theorem Names.exists_spelled {text : String} {index : Fin 10} (h : Names text index) :
    ∃ digit, Spelled text digit ∧ index.val = digit.toNat - '0'.toNat := by
  obtain ⟨hdigit, hcode⟩ := isDigit_ofNat index
  refine ⟨Char.ofNat (48 + index.val), ⟨hdigit, ?_⟩, ?_⟩
  · rcases h with rfl | rfl
    · exact .inl (usb_chars index)
    · exact .inr (dpf_chars index)
  · rw [hcode]
    exact (Nat.add_sub_cancel_left 48 index.val).symm

theorem Spelled.names {text : String} {digit : Char} {index : Fin 10} (h : Spelled text digit)
    (hindex : index.val = digit.toNat - '0'.toNat) : Names text index := by
  obtain ⟨hlow, -⟩ := toNat_of_isDigit h.1
  have hcode : digit = Char.ofNat (48 + index.val) := by
    rw [hindex, show '0'.toNat = 48 from rfl, Nat.add_sub_cancel' hlow, Char.ofNat_toNat]
  refine h.2.imp ?_ ?_
  · intro htext
    rw [← String.toList_inj, htext, usb_chars, ← hcode]
  · intro htext
    rw [← String.toList_inj, htext, dpf_chars, ← hcode]

theorem parse_eq_ok_iff_spelled {text : String} {s : Selector} : parse text = .ok s ↔
    ∃ digit, Spelled text digit ∧ s.index.val = digit.toNat - '0'.toNat := by
  rw [parse_eq_ok_iff]
  constructor
  · exact Names.exists_spelled
  · rintro ⟨digit, hspelled, hindex⟩
    exact hspelled.names hindex

theorem parse_eq_error_iff {text : String} {fault : Fault} :
    parse text = .error fault ↔ fault = .selector text ∧ ¬ ∃ digit, Spelled text digit := by
  have hspelled : (∃ index, Names text index) ↔ ∃ digit, Spelled text digit := by
    constructor
    · rintro ⟨index, hnames⟩
      obtain ⟨digit, hdigit, -⟩ := hnames.exists_spelled
      exact ⟨digit, hdigit⟩
    · rintro ⟨digit, hdigit⟩
      have hrange := toNat_of_isDigit hdigit.1
      exact ⟨⟨digit.toNat - '0'.toNat, by change digit.toNat - 48 < 10; omega⟩, hdigit.names rfl⟩
  rw [← hspelled]
  constructor
  · intro h
    by_cases hnamed : ∃ index, Names text index
    · obtain ⟨index, hindex⟩ := hnamed
      cases hindex.parse_eq.symm.trans h
    · cases (parse_eq_error hnamed).symm.trans h
      exact ⟨rfl, hnamed⟩
  · rintro ⟨rfl, hunnamed⟩
    exact parse_eq_error hunnamed

theorem parse_text (s : Selector) : parse s.text = .ok s := Names.parse_eq (.inl rfl)

theorem ofIndex_eq_ok_iff {n : UInt8} {s : Selector} :
    ofIndex n = .ok s ↔ s.index.val = n.toNat := by
  rw [ofIndex]
  constructor
  · intro h
    split at h
    · cases h
      rfl
    · cases h
  · intro h
    have hlt : n.toNat < 10 := h ▸ s.index.isLt
    rw [dif_pos hlt]
    congr
    exact h.symm

theorem Spelled.getLast? {text : String} {digit : Char} (h : Spelled text digit) :
    text.toList.getLast? = some digit := by
  rcases h.2 with htext | htext <;> rw [htext] <;> rfl

/-- Which texts are read and as which selectors, and the fault for all others. What is printed for a
selector is read as that selector, a number makes the selector of that number that some text is read
as, and two texts that are read give one selector exactly if they end in the same digit. -/
theorem selector_grammar :
    (∀ (text : String) (s : Selector), parse text = .ok s ↔
      ∃ digit, Spelled text digit ∧ s.index.val = digit.toNat - '0'.toNat) ∧
    (∀ (text : String) (fault : Fault), parse text = .error fault ↔
      fault = .selector text ∧ ¬ ∃ digit, Spelled text digit) ∧
    (∀ s : Selector, parse s.text = .ok s) ∧
    (∀ (n : UInt8) (s : Selector), ofIndex n = .ok s ↔
      (∃ text, parse text = .ok s) ∧ s.index.val = n.toNat) ∧
    (∀ (text text' : String) (s s' : Selector), parse text = .ok s → parse text' = .ok s' →
      (s = s' ↔ text.toList.getLast? = text'.toList.getLast?)) := by
  refine ⟨fun _ _ => parse_eq_ok_iff_spelled, fun _ _ => parse_eq_error_iff, parse_text, ?made, ?last⟩
  case made =>
    intro n s
    rw [ofIndex_eq_ok_iff, and_iff_right ⟨s.text, parse_text s⟩]
  case last =>
    intro text text' s s' h h'
    obtain ⟨digit, hspelled, hindex⟩ := parse_eq_ok_iff_spelled.1 h
    obtain ⟨digit', hspelled', hindex'⟩ := parse_eq_ok_iff_spelled.1 h'
    rw [hspelled.getLast?, hspelled'.getLast?, Option.some.injEq, Selector.ext_iff, Fin.ext_iff,
      hindex, hindex', value_inj hspelled.1 hspelled'.1]

theorem selector_grammar_three : parse "usb3" = .ok ⟨3⟩ ∧ parse "dpf3" = .ok ⟨3⟩ ∧
    "usb3".toList.getLast? = "dpf3".toList.getLast? := by
  have husb : parse "usb3" = .ok ⟨3⟩ := Names.parse_eq (show Names "usb3" 3 from .inl rfl)
  have hdpf : parse "dpf3" = .ok ⟨3⟩ := Names.parse_eq (show Names "dpf3" 3 from .inr rfl)
  exact ⟨husb, hdpf, (selector_grammar.2.2.2.2 _ _ _ _ husb hdpf).1 rfl⟩

end PictureFrame.Selector
