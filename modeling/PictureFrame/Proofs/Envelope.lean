import Mathlib.Tactic.SplitIfs
import PictureFrame.Exchange
import PictureFrame.Proofs.Basic

set_option autoImplicit false

namespace PictureFrame.Request

theorem argument_extended (opcode : UInt8) (a b c d : UInt16) (i : Fin 4) :
    argument (extended opcode a b c d) i = #v[a, b, c, d][i] := by
  match i with
  | 0 | 1 | 2 | 3 => exact word16_low8_high8 _

/-- Taking one off each end of a rectangle and adding it again changes nothing, wrapped or not. -/
theorem ofBlock?_blit (r : Rect) : ofBlock? (blit r).block = some (.blit r) := by
  have hargument := argument_extended blitOpcode r.left r.top (r.right - 1) (r.bottom - 1)
  have hcandidate : Request.blit ⟨argument (blit r).block 0, argument (blit r).block 1,
      argument (blit r).block 2 + 1, argument (blit r).block 3 + 1⟩ = .blit r := by
    simp only [block, hargument]
    change Request.blit ⟨r.left, r.top, r.right - 1 + 1, r.bottom - 1 + 1⟩ = _
    rw [UInt16.sub_add_cancel, UInt16.sub_add_cancel]
  have hextended : ¬ (blit r).block[5] = 0x02 := by
    change ¬ (0x06 : UInt8) = 0x02
    decide
  have hopcode : (blit r).block[6] = blitOpcode := rfl
  simp only [ofBlock?, if_neg hextended, if_pos hopcode, hcandidate, if_true]

theorem ofBlock?_brightness (level : UInt16) :
    ofBlock? (brightness level).block = some (.brightness level) := by
  have hargument : argument (brightness level).block 1 = level :=
    argument_extended propertyOpcode brightnessProperty level 0 0 1
  have hextended : ¬ (brightness level).block[5] = 0x02 := by
    change ¬ (0x06 : UInt8) = 0x02
    decide
  have hopcode : ¬ (brightness level).block[6] = blitOpcode := by
    change ¬ propertyOpcode = blitOpcode
    decide
  simp only [ofBlock?, if_neg hextended, if_neg hopcode, hargument, if_true]

theorem ofBlock?_block (request : Request) : ofBlock? request.block = some request := by
  cases request with
  | parameters => rfl
  | blit r => exact ofBlock?_blit r
  | brightness level => exact ofBlock?_brightness level

end PictureFrame.Request

namespace PictureFrame.Envelope

theorem getElem_encode (block : CommandBlock) (length : UInt32) {i : Nat} (h : i < 15) :
    (encode block length)[i] = (header length)[i] :=
  Vector.getElem_append_left h

theorem announced_encode (block : CommandBlock) (length : UInt32) :
    announced (encode block length) = length := by
  rw [announced, getElem_encode block length (by decide), getElem_encode block length (by decide),
    getElem_encode block length (by decide), getElem_encode block length (by decide)]
  exact word32_byte32 length

theorem carried_encode (block : CommandBlock) (length : UInt32) :
    carried (encode block length) = block := by
  apply Vector.ext
  intro i hi
  have hright : (encode block length)[15 + i] = block[15 + i - 15] :=
    Vector.getElem_append_right (by omega) (Nat.le_add_right 15 i)
  rw [carried, Vector.getElem_ofFn]
  simpa only [Nat.add_sub_cancel_left] using hright

theorem decode?_encode (request : Request) (length : UInt32) :
    decode? (encode request.block length) = some (request, length) := by
  rw [decode?, carried_encode, announced_encode, Request.ofBlock?_block]
  exact if_pos rfl

theorem encode_of_decode? {e : EnvelopeBytes} {request : Request} {length : UInt32}
    (h : decode? e = some (request, length)) : encode request.block length = e := by
  simp only [decode?, Option.bind_eq_bind, Option.bind_eq_some_iff] at h
  obtain ⟨found, -, hfound⟩ := h
  split_ifs at hfound with hencode
  cases hfound
  exact hencode

theorem decode?_eq_some_iff {e : EnvelopeBytes} {request : Request} {length : UInt32} :
    decode? e = some (request, length) ↔ encode request.block length = e := by
  constructor
  · exact encode_of_decode?
  · intro h
    rw [← h]
    exact decode?_encode request length

theorem encode_inj {request request' : Request} {length length' : UInt32} :
    encode request.block length = encode request'.block length' ↔
      request = request' ∧ length = length' := by
  constructor
  · intro h
    have hread := decode?_encode request length
    rw [h, decode?_encode] at hread
    cases hread
    exact ⟨rfl, rfl⟩
  · rintro ⟨rfl, rfl⟩
    rfl

def Spells (size : Nat) (bytes : List UInt8) (number : Nat) : Prop :=
  bytes.length = size ∧ littleEndian bytes = number

def front (length : List UInt8) : List UInt8 :=
  [0x55, 0x53, 0x42, 0x43, 0xDE, 0xAD, 0xBE, 0xEF] ++ length ++ [0, 0, 16]

/-- The bytes of the envelope that asks for something and announces a length. The ends of a
rectangle are written less one, so a zero is written as the largest word. -/
inductive Written : List UInt8 → Request → UInt32 → Prop
  | parameters {size : List UInt8} {length : UInt32} (announced : Spells 4 size length.toNat) :
      Written (front size ++ [0xCD, 0, 0, 0, 0, 0x02, 0, 0, 0, 0, 0, 0, 0, 0, 0, 0])
        .parameters length
  | blit {size x0 y0 x1 y1 : List UInt8} {length : UInt32} {rect : Rect}
      (announced : Spells 4 size length.toNat) (left : Spells 2 x0 rect.left.toNat)
      (top : Spells 2 y0 rect.top.toNat) (right : Spells 2 x1 ((rect.right.toNat + 65535) % 65536))
      (bottom : Spells 2 y1 ((rect.bottom.toNat + 65535) % 65536)) :
      Written (front size ++ ([0xCD, 0, 0, 0, 0, 0x06, 0x12] ++ x0 ++ y0 ++ x1 ++ y1 ++ [0]))
        (.blit rect) length
  | brightness {size word : List UInt8} {length : UInt32} {level : UInt16}
      (announced : Spells 4 size length.toNat) (value : Spells 2 word level.toNat) :
      Written (front size ++ ([0xCD, 0, 0, 0, 0, 0x06, 0x01, 1, 0] ++ word ++ [0, 0, 0, 0, 0]))
        (.brightness level) length

theorem Spells.unique {size number : Nat} {bytes bytes' : List UInt8}
    (h : Spells size bytes number) (h' : Spells size bytes' number) : bytes = bytes' :=
  littleEndian_inj (h.1.trans h'.1.symm) (h.2.trans h'.2.symm)

theorem spells_bytes16 (v : UInt16) : Spells 2 [low8 v, high8 v] v.toNat :=
  ⟨rfl, littleEndian_bytes16 v⟩

theorem spells_bytes32 (v : UInt32) :
    Spells 4 [byte32 v 0, byte32 v 1, byte32 v 2, byte32 v 3] v.toNat :=
  ⟨rfl, littleEndian_bytes32 v⟩

theorem spells_pred16 (v : UInt16) :
    Spells 2 [low8 (v - 1), high8 (v - 1)] ((v.toNat + 65535) % 65536) := by
  rw [← toNat_sub_one16]
  exact spells_bytes16 (v - 1)

theorem toList_encode (block : CommandBlock) (length : UInt32) :
    (encode block length).toList =
      front [byte32 length 0, byte32 length 1, byte32 length 2, byte32 length 3] ++
        block.toList := by
  rw [encode, Vector.toList_append]
  rfl

theorem written_encode (request : Request) (length : UInt32) :
    Written (encode request.block length).toList request length := by
  have hlength := spells_bytes32 length
  rw [toList_encode]
  cases request with
  | parameters => exact .parameters hlength
  | blit r =>
    exact .blit hlength (spells_bytes16 r.left) (spells_bytes16 r.top) (spells_pred16 r.right)
      (spells_pred16 r.bottom)
  | brightness level => exact .brightness hlength (spells_bytes16 level)

theorem Written.unique {bytes bytes' : List UInt8} {request : Request} {length : UInt32}
    (h : Written bytes request length) (h' : Written bytes' request length) : bytes = bytes' := by
  cases h with
  | parameters announced =>
    cases h' with
    | parameters announced' => rw [announced.unique announced']
  | blit announced left top right bottom =>
    cases h' with
    | blit announced' left' top' right' bottom' =>
      rw [announced.unique announced', left.unique left', top.unique top', right.unique right',
        bottom.unique bottom']
  | brightness announced value =>
    cases h' with
    | brightness announced' value' => rw [announced.unique announced', value.unique value']

theorem written_iff {e : EnvelopeBytes} {request : Request} {length : UInt32} :
    Written e.toList request length ↔ encode request.block length = e := by
  constructor
  · intro h
    exact Vector.toList_inj.1 ((written_encode request length).unique h)
  · intro h
    rw [← h]
    exact written_encode request length

/-- The decoder undoes the encoder on every request and every length, so no envelope stands for two
of them, and it reads a request only where encoding gives the same bytes back: exactly from the
bytes that are written for that request. -/
theorem envelope_round_trip :
    (∀ (request : Request) (length : UInt32),
      decode? (encode request.block length) = some (request, length)) ∧
    (∀ (request request' : Request) (length length' : UInt32),
      encode request.block length = encode request'.block length' ↔
        request = request' ∧ length = length') ∧
    (∀ (e : EnvelopeBytes) (request : Request) (length : UInt32),
      (decode? e = some (request, length) ↔ encode request.block length = e) ∧
        (decode? e = some (request, length) ↔ Written e.toList request length)) := by
  refine ⟨decode?_encode, fun _ _ _ _ => encode_inj, fun e request length => ?_⟩
  exact ⟨decode?_eq_some_iff, decode?_eq_some_iff.trans written_iff.symm⟩

end PictureFrame.Envelope
