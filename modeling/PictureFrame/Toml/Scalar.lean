import PictureFrame.Basic

set_option autoImplicit false

namespace PictureFrame.Toml

def isBlank (c : Char) : Bool := c = ' ' || c = '\t'

def skipBlanks (cs : List Char) : List Char := cs.dropWhile isBlank

def isPrintable (c : Char) : Bool := c = '\t' || (0x20 ≤ c.toNat && c.toNat ≠ 0x7F)

def skipComment : List Char → Option (List Char)
  | [] => some []
  | '\n' :: rest => some rest
  | '\r' :: '\n' :: rest => some rest
  | c :: rest => if isPrintable c then skipComment rest else none

def lineEnd : List Char → Option (List Char)
  | [] => some []
  | '\n' :: rest => some rest
  | '\r' :: '\n' :: rest => some rest
  | '#' :: rest => skipComment rest
  | _ => none

def skipFillFrom (inComment : Bool) : List Char → Option (List Char)
  | [] => some []
  | '\n' :: rest => skipFillFrom false rest
  | '\r' :: '\n' :: rest => skipFillFrom false rest
  | c :: rest =>
    if inComment then
      if isPrintable c then skipFillFrom true rest else none
    else if c = '#' then skipFillFrom true rest
    else if isBlank c then skipFillFrom false rest
    else some (c :: rest)

def skipFill (cs : List Char) : Option (List Char) := skipFillFrom false cs

def ungroup? (radix : Nat) : List Char → Option (List Char)
  | [] => none
  | [c] => (Numeral.digit? radix c).map fun _ => [c]
  | c :: '_' :: rest => do
    let _ ← Numeral.digit? radix c
    return c :: (← ungroup? radix rest)
  | c :: rest => do
    let _ ← Numeral.digit? radix c
    return c :: (← ungroup? radix rest)

def inWord (n : Int) : Option Int := if -0x8000000000000000 ≤ n ∧ n < 0x8000000000000000 then some n else none

def splitSign : List Char → Bool × List Char
  | '-' :: rest => (true, rest)
  | '+' :: rest => (false, rest)
  | cs => (false, cs)

def wholeDigits? (cs : List Char) : Option (List Char) := do
  let digits ← ungroup? 10 cs
  if digits.head? = some '0' ∧ digits.length ≠ 1 then none else some digits

def based? (radix : Nat) (cs : List Char) : Option Int := do
  inWord (Int.ofNat (← Numeral.digits? radix (← ungroup? radix cs)))

def integer? : List Char → Option Int
  | '0' :: 'x' :: rest => based? 16 rest
  | '0' :: 'o' :: rest => based? 8 rest
  | '0' :: 'b' :: rest => based? 2 rest
  | cs => do
    let (negative, rest) := splitSign cs
    let n ← Numeral.digits? 10 (← wholeDigits? rest)
    inWord (if negative then -(Int.ofNat n) else Int.ofNat n)

/-- The least number that rounds to infinity as a number of 64 bits. -/
def infinityBound : Nat := Nat.pow 2 1024 - Nat.pow 2 970

def isFinite (digits : List Char) (exponent : Int) : Bool :=
  let n := (Numeral.digits? 10 digits).getD 0
  let magnitude := exponent + (Nat.toDigits 10 n).length
  n = 0 || magnitude ≤ 300 ||
    (magnitude ≤ 400 &&
      (if 0 ≤ exponent then n * Nat.pow 10 exponent.toNat < infinityBound
       else n < infinityBound * Nat.pow 10 (-exponent).toNat))

def exponent? (cs : List Char) : Option Int := do
  let (negative, rest) := splitSign cs
  let n ← Numeral.digits? 10 (← ungroup? 10 rest)
  return if negative then -(Int.ofNat n) else Int.ofNat n

def splitExponent (cs : List Char) : List Char × Option (List Char) :=
  let mantissa := cs.takeWhile fun c => c ≠ 'e' && c ≠ 'E'
  (mantissa, if mantissa.length < cs.length then some (cs.drop (mantissa.length + 1)) else none)

def splitPoint (cs : List Char) : List Char × Option (List Char) :=
  let whole := cs.takeWhile (· ≠ '.')
  (whole, if whole.length < cs.length then some (cs.drop (whole.length + 1)) else none)

def isFloat (cs : List Char) : Bool :=
  let (negative, rest) := splitSign cs
  if rest = ['i', 'n', 'f'] || rest = ['n', 'a', 'n'] then true
  else
    let (mantissa, exponent) := splitExponent rest
    let (whole, fraction) := splitPoint mantissa
    let parts : Option Bool := do
      let wholePart ← wholeDigits? whole
      let fractionPart ← match fraction with
        | some f => ungroup? 10 f
        | none => some []
      let power ← match exponent with
        | some e => exponent? e
        | none => some 0
      return (fraction.isSome || exponent.isSome) &&
        (negative || isFinite (wholePart ++ fractionPart) (power - fractionPart.length))
    parts.getD false

def twoDigits? (a b : Char) : Option Nat := Numeral.digits? 10 [a, b]

def isLeapYear (year : Nat) : Bool := year % 4 = 0 && (year % 100 ≠ 0 || year % 400 = 0)

def daysIn (year month : Nat) : Nat :=
  if month = 2 then if isLeapYear year then 29 else 28
  else if month = 4 || month = 6 || month = 9 || month = 11 then 30
  else 31

def date? : List Char → Option (List Char)
  | y0 :: y1 :: y2 :: y3 :: '-' :: m0 :: m1 :: '-' :: d0 :: d1 :: rest => do
    let year ← Numeral.digits? 10 [y0, y1, y2, y3]
    let month ← twoDigits? m0 m1
    let day ← twoDigits? d0 d1
    if 1 ≤ month ∧ month ≤ 12 ∧ 1 ≤ day ∧ day ≤ daysIn year month then some rest else none
  | _ => none

def fraction? : List Char → Option (List Char)
  | '.' :: rest =>
    match rest with
    | c :: _ => if c.isDigit then some (rest.dropWhile (·.isDigit)) else none
    | [] => none
  | cs => some cs

def time? : List Char → Option (List Char)
  | h0 :: h1 :: ':' :: m0 :: m1 :: ':' :: s0 :: s1 :: rest => do
    let hour ← twoDigits? h0 h1
    let minute ← twoDigits? m0 m1
    let second ← twoDigits? s0 s1
    if hour ≤ 23 ∧ minute ≤ 59 ∧ second ≤ 60 then fraction? rest else none
  | _ => none

def isOffset : List Char → Bool
  | [] | ['Z'] | ['z'] => true
  | [sign, h0, h1, ':', m0, m1] =>
    (sign = '+' || sign = '-') &&
      match twoDigits? h0 h1, twoDigits? m0 m1 with
      | some hour, some minute => hour ≤ 23 && minute ≤ 59
      | _, _ => false
  | _ => false

def isTimeOfDate (cs : List Char) : Bool := ((time? cs).map isOffset).getD false

def isDate (cs : List Char) : Bool := date? cs = some []

def isMoment (cs : List Char) : Bool :=
  match date? cs with
  | some [] => true
  | some (c :: rest) => (c = 'T' || c = 't') && isTimeOfDate rest
  | none => time? cs = some []

def codePoint? (count : Nat) (cs : List Char) : Option Char := do
  let digits := cs.take count
  let n ← Numeral.digits? 16 digits
  if digits.length = count ∧ n.isValidChar then some (Char.ofNat n) else none

/-- The character that an escape stands for and the number of characters after the backslash. -/
def escape? : List Char → Option (Char × Nat)
  | 'b' :: _ => some ('\x08', 1)
  | 't' :: _ => some ('\t', 1)
  | 'n' :: _ => some ('\n', 1)
  | 'f' :: _ => some ('\x0c', 1)
  | 'r' :: _ => some ('\r', 1)
  | '"' :: _ => some ('"', 1)
  | '\\' :: _ => some ('\\', 1)
  | 'u' :: rest => (codePoint? 4 rest).map (·, 5)
  | 'U' :: rest => (codePoint? 8 rest).map (·, 9)
  | _ => none

/-- Reads to the closing quotation mark. The first `skip` characters have been dealt with, and
`done` holds the text so far, backwards. -/
def quotedFrom (skip : Nat) (done : List Char) : List Char → Option (List Char × List Char)
  | [] => none
  | c :: rest =>
    match skip with
    | more + 1 => quotedFrom more done rest
    | 0 =>
      if c = '"' then some (done.reverse, rest)
      else if c = '\\' then
        match escape? rest with
        | some (e, length) => quotedFrom length (e :: done) rest
        | none => none
      else if isPrintable c then quotedFrom 0 (c :: done) rest
      else none

def literalFrom (done : List Char) : List Char → Option (List Char × List Char)
  | [] => none
  | c :: rest =>
    if c = '\'' then some (done.reverse, rest)
    else if isPrintable c then literalFrom (c :: done) rest
    else none

def atLineEnd : List Char → Bool
  | '\n' :: _ => true
  | '\r' :: '\n' :: _ => true
  | _ => false

def dropLineEnd : List Char → List Char
  | '\n' :: rest => rest
  | '\r' :: '\n' :: rest => rest
  | cs => cs

/-- Three to five marks end a text of several lines: two of them may belong to it. The number of
such marks and the text behind them. -/
def closing? (mark : Char) (cs : List Char) : Option (Nat × List Char) :=
  let count := ((cs.take 5).takeWhile (· = mark)).length
  if 3 ≤ count then some (count - 3, cs.drop count) else none

def multilineFrom (skip : Nat) (folding : Bool) (done : List Char) :
    List Char → Option (List Char × List Char)
  | [] => none
  | c :: rest =>
    match skip with
    | more + 1 => multilineFrom more folding done rest
    | 0 =>
      if folding && (isBlank c || atLineEnd (c :: rest)) then multilineFrom 0 true done rest
      else if c = '"' then
        match closing? '"' (c :: rest) with
        | some (extra, after) => some (done.reverse ++ List.replicate extra '"', after)
        | none => multilineFrom 0 false (c :: done) rest
      else if c = '\\' then
        match escape? rest with
        | some (e, length) => multilineFrom length false (e :: done) rest
        | none => if atLineEnd (skipBlanks rest) then multilineFrom 0 true done rest else none
      else if c = '\n' then multilineFrom 0 false (c :: done) rest
      else if c = '\r' then
        if atLineEnd (c :: rest) then multilineFrom 0 false done rest else none
      else if isPrintable c then multilineFrom 0 false (c :: done) rest
      else none

def multilineLiteralFrom (done : List Char) : List Char → Option (List Char × List Char)
  | [] => none
  | c :: rest =>
    if c = '\'' then
      match closing? '\'' (c :: rest) with
      | some (extra, after) => some (done.reverse ++ List.replicate extra '\'', after)
      | none => multilineLiteralFrom (c :: done) rest
    else if c = '\n' then multilineLiteralFrom (c :: done) rest
    else if c = '\r' then
      if atLineEnd (c :: rest) then multilineLiteralFrom done rest else none
    else if isPrintable c then multilineLiteralFrom (c :: done) rest
    else none

def lineText? : List Char → Option (String × List Char)
  | '"' :: rest => (quotedFrom 0 [] rest).map fun (s, rest) => (String.ofList s, rest)
  | '\'' :: rest => (literalFrom [] rest).map fun (s, rest) => (String.ofList s, rest)
  | _ => none

def text? : List Char → Option (String × List Char)
  | '"' :: '"' :: '"' :: rest =>
    (multilineFrom 0 false [] (dropLineEnd rest)).map fun (s, rest) => (String.ofList s, rest)
  | '\'' :: '\'' :: '\'' :: rest =>
    (multilineLiteralFrom [] (dropLineEnd rest)).map fun (s, rest) => (String.ofList s, rest)
  | cs => lineText? cs

end PictureFrame.Toml
