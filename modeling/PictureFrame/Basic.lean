set_option autoImplicit false

namespace PictureFrame

/-- Arithmetic that leaves its word, or an access that leaves its buffer, ends the whole program.
Such an ending is a value here, so that a theorem can say where it cannot occur. -/
inductive Abort
  | addition
  | multiplication
  | capacity
  | index
  | division
  deriving DecidableEq, Repr, Inhabited

def Abort.message : Abort → String
  | .addition => "attempt to add with overflow"
  | .multiplication => "attempt to multiply with overflow"
  | .capacity => "capacity overflow"
  | .index => "index out of bounds"
  | .division => "attempt to calculate the remainder with a divisor of zero"

abbrev Checked (α : Type) := Except Abort α

namespace Checked

def wordLimit : Nat := 0x10000000000000000

def allocationLimit : Nat := 0x8000000000000000

def add (a b : Nat) : Checked Nat :=
  if a + b < wordLimit then .ok (a + b) else .error .addition

def mul (a b : Nat) : Checked Nat :=
  if a * b < wordLimit then .ok (a * b) else .error .multiplication

def allocation (size : Nat) : Checked Nat :=
  if size < allocationLimit then .ok size else .error .capacity

def next16 (n : UInt16) : Checked UInt16 :=
  if n = 0xFFFF then .error .addition else .ok (n + 1)

end Checked

abbrev Bytes := Array UInt8

/-- What one read delivers into a buffer of `n` bytes. -/
def Delivery (n : Nat) := { bytes : Bytes // bytes.size ≤ n }

namespace Delivery

def cut (n : Nat) (bytes : Bytes) : Delivery n :=
  ⟨bytes.extract 0 n, by rw [Array.size_extract]; omega⟩

def nothing {n : Nat} : Delivery n := ⟨#[], Nat.zero_le n⟩

def size {n : Nat} (d : Delivery n) : Nat := d.val.size

end Delivery

def overlay {n : Nat} (buffer : Vector UInt8 n) (d : Delivery n) : Vector UInt8 n :=
  ⟨d.val ++ buffer.toArray.extract d.val.size n, by
    have := d.property
    rw [Array.size_append, Array.size_extract, Vector.size_toArray]
    omega⟩

def low8 (v : UInt16) : UInt8 := v.toUInt8

def high8 (v : UInt16) : UInt8 := (v >>> 8).toUInt8

def word16 (low high : UInt8) : UInt16 := low.toUInt16 ||| (high.toUInt16 <<< 8)

def byte32 (v : UInt32) (i : UInt32) : UInt8 := (v >>> (8 * i)).toUInt8

def word32 (b0 b1 b2 b3 : UInt8) : UInt32 :=
  b0.toUInt32 ||| (b1.toUInt32 <<< 8) ||| (b2.toUInt32 <<< 16) ||| (b3.toUInt32 <<< 24)

namespace Numeral

def digit? (radix : Nat) (c : Char) : Option Nat :=
  let value :=
    if '0' ≤ c ∧ c ≤ '9' then c.toNat - '0'.toNat
    else if 'a' ≤ c ∧ c ≤ 'z' then c.toNat - 'a'.toNat + 10
    else if 'A' ≤ c ∧ c ≤ 'Z' then c.toNat - 'A'.toNat + 10
    else radix
  if value < radix then some value else none

/-- The value of `cs` read after digits worth `high`. -/
def digitsFrom? (radix high : Nat) : List Char → Option Nat
  | [] => some high
  | c :: cs => do digitsFrom? radix (high * radix + (← digit? radix c)) cs

def digits? (radix : Nat) : List Char → Option Nat
  | [] => none
  | c :: cs => digitsFrom? radix 0 (c :: cs)

/-- Digits led by at most one plus sign; a sign alone is no numeral. -/
def unsigned? (radix limit : Nat) (cs : List Char) : Option Nat := do
  let value ← match cs with
    | '+' :: rest => digits? radix rest
    | _ => digits? radix cs
  if value ≤ limit then some value else none

def signed? (radix : Nat) (least greatest : Int) (cs : List Char) : Option Int := do
  let value ← match cs with
    | '-' :: rest => (digits? radix rest).map fun n => -(n : Int)
    | '+' :: rest => (digits? radix rest).map fun n => (n : Int)
    | _ => (digits? radix cs).map fun n => (n : Int)
  if least ≤ value ∧ value ≤ greatest then some value else none

end Numeral

/-- The first column and row, and the ones after the last. An end at or before its start makes the
rectangle empty. -/
structure Rect where
  left : UInt16
  top : UInt16
  right : UInt16
  bottom : UInt16
  deriving DecidableEq, Repr, Inhabited

namespace Rect

def width (r : Rect) : Nat := r.right.toNat - r.left.toNat

def height (r : Rect) : Nat := r.bottom.toNat - r.top.toNat

def byteLength (r : Rect) : Nat := r.width * r.height * 2

def text (r : Rect) : String :=
  "[" ++ toString r.left.toNat ++ ", " ++ toString r.top.toNat ++ ", " ++
    toString r.right.toNat ++ ", " ++ toString r.bottom.toNat ++ "]"

def Contains (r : Rect) (x y : Nat) : Prop :=
  r.left.toNat ≤ x ∧ x < r.right.toNat ∧ r.top.toNat ≤ y ∧ y < r.bottom.toNat

instance (r : Rect) (x y : Nat) : Decidable (r.Contains x y) :=
  inferInstanceAs (Decidable (_ ∧ _ ∧ _ ∧ _))

end Rect

structure Color where
  red : UInt8
  green : UInt8
  blue : UInt8
  alpha : UInt8
  deriving DecidableEq, Repr, Inhabited

/-- The two bytes of one panel pixel, in the order in which they are sent. -/
structure Packed where
  high : UInt8
  low : UInt8
  deriving DecidableEq, Repr, Inhabited

def Packed.toBytes (p : Packed) : Bytes := #[p.high, p.low]

namespace Color

def solid (red green blue : UInt8) : Color := ⟨red, green, blue, 0xFF⟩

def black : Color := ⟨0, 0, 0, 0⟩

def toBytes (c : Color) : Vector UInt8 4 := #v[c.red, c.green, c.blue, c.alpha]

def ofBytes (v : Vector UInt8 4) : Color := ⟨v[0], v[1], v[2], v[3]⟩

def rgb565 (c : Color) : UInt16 :=
  ((c.red >>> 3).toUInt16 <<< 11) ||| ((c.green >>> 2).toUInt16 <<< 5) ||| (c.blue >>> 3).toUInt16

def packed (c : Color) : Packed := ⟨high8 c.rgb565, low8 c.rgb565⟩

theorem ofBytes_toBytes (c : Color) : ofBytes c.toBytes = c := rfl

def component? (first second : Char) : Option UInt8 :=
  (Numeral.unsigned? 16 255 [first, second]).map UInt8.ofNat

/-- Any number of leading number signs is dropped, and each component may spend the first of its two
characters on a plus sign. -/
def ofHex? (text : String) : Option Color :=
  let digits := text.toList.dropWhile (· = '#')
  if digits.all (·.toNat < 128) then
    match digits with
    | [r0, r1, g0, g1, b0, b1] => do
      return solid (← component? r0 r1) (← component? g0 g1) (← component? b0 b1)
    | _ => none
  else none

end Color
end PictureFrame
