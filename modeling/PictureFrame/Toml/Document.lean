import PictureFrame.Toml.Scalar

set_option autoImplicit false

namespace PictureFrame.Toml

def depthLimit : Nat := 80

def isKeyChar (c : Char) : Bool := c.isAlphanum || c = '_' || c = '-'

def key? (cs : List Char) : Option (String × List Char) :=
  match lineText? cs with
  | some read => some read
  | none =>
    let bare := cs.takeWhile isKeyChar
    if bare.isEmpty then none else some (String.ofList bare, cs.dropWhile isKeyChar)

def pathWithin : Nat → List Char → Option (List String × List Char)
  | 0, _ => none
  | more + 1, cs => do
    let (key, rest) ← key? (skipBlanks cs)
    match skipBlanks rest with
    | '.' :: rest =>
      let (path, rest) ← pathWithin more rest
      return (key :: path, rest)
    | rest => return ([key], rest)

def path? (cs : List Char) : Option (List String × List Char) := pathWithin (depthLimit - 1) cs

/-- How a table came to be: by a header of its own, on the way to another header, on the way to a
dotted key, or between braces. This decides which later lines may add to it. -/
inductive Origin
  | header
  | implied
  | dotted
  | inline
  deriving DecidableEq, Repr

inductive Value
  | text (s : String)
  | integer (n : Int)
  | float
  | boolean (b : Bool)
  | moment
  | array (items : List Value)
  | table (origin : Origin) (entries : List (String × Value))
  | tables (elements : List (List (String × Value)))

abbrev Entries := List (String × Value)

namespace Entries

def set (key : String) (value : Value) : Entries → Entries
  | [] => [(key, value)]
  | (k, v) :: rest => if k = key then (k, value) :: rest else (k, v) :: set key value rest

/-- Changes the table at the end of a path by `change`, which is told how that table came to be.
Missing tables are made with the origin `made`; only tables that satisfy `enters` are entered. The
last element stands for tables in double brackets. -/
def changeAt (enters : Origin → Bool) (made : Origin)
    (change : Origin → Entries → Option Entries) :
    List String → Origin → Entries → Option Entries
  | [], origin, entries => change origin entries
  | key :: path, _, entries =>
    match entries.lookup key with
    | none => do
      return set key (.table made (← changeAt enters made change path made [])) entries
    | some (.table origin inner) =>
      if enters origin then do
        return set key (.table origin (← changeAt enters made change path origin inner)) entries
      else none
    | some (.tables elements) => do
      let last ← elements.getLast?
      let last ← changeAt enters made change path .header last
      return set key (.tables (elements.dropLast ++ [last])) entries
    | some _ => none

def changeAtHeader (path : List String) (change : Origin → Entries → Option Entries)
    (entries : Entries) : Option Entries :=
  changeAt (· ≠ .inline) .implied change path .header entries

def insert (path : List String) (key : String) (value : Value) (entries : Entries) :
    Option Entries :=
  let add (origin : Origin) (inner : Entries) : Option Entries :=
    if path ≠ [] ∧ origin ≠ .dotted then none
    else if (inner.lookup key).isSome then none
    else some (inner ++ [(key, value)])
  changeAt (fun o => o = .implied || o = .dotted) .dotted add path .header entries

def define (path : List String) (key : String) (entries : Entries) : Option Entries :=
  changeAtHeader path (fun _ inner =>
    match inner.lookup key with
    | none => some (inner ++ [(key, .table .header [])])
    | some (.table .implied t) => some (set key (.table .header t) inner)
    | some _ => none) entries

def defineElement (path : List String) (key : String) (entries : Entries) : Option Entries :=
  changeAtHeader path (fun _ inner =>
    match inner.lookup key with
    | none => some (inner ++ [(key, .tables [[]])])
    | some (.tables elements) => some (set key (.tables (elements ++ [[]])) inner)
    | some _ => none) entries

end Entries

def isWordChar (c : Char) : Bool := c.isAlphanum || "+-_.:".toList.contains c

def word? (cs : List Char) : Option Value :=
  if cs = ['t', 'r', 'u', 'e'] then some (.boolean true)
  else if cs = ['f', 'a', 'l', 's', 'e'] then some (.boolean false)
  else if isMoment cs then some .moment
  else if isFloat cs then some .float
  else (integer? cs).map .integer

def simpleValue? (cs : List Char) : Option (Value × List Char) :=
  match text? cs with
  | some (s, rest) => some (.text s, rest)
  | none =>
    let word := cs.takeWhile isWordChar
    match cs.dropWhile isWordChar with
    | ' ' :: c :: rest =>
      if isDate word && c.isDigit then
        let time := (c :: rest).takeWhile isWordChar
        if isTimeOfDate time then some (.moment, (c :: rest).dropWhile isWordChar) else none
      else (word? word).map (·, ' ' :: c :: rest)
    | rest => (word? word).map (·, rest)

abbrev ValueReader := List Char → Option (Value × List Char)

/-- The readers of lists recurse on a number that starts above the length of the text. -/
def arrayItems (value : ValueReader) : Nat → List Char → Option (List Value × List Char)
  | 0, _ => none
  | fuel + 1, cs => do
    match ← skipFill cs with
    | ']' :: rest => return ([], rest)
    | cs =>
      let (item, rest) ← value cs
      match ← skipFill rest with
      | ',' :: rest =>
        let (items, rest) ← arrayItems value fuel rest
        return (item :: items, rest)
      | ']' :: rest => return ([item], rest)
      | _ => none

def keyValue? (value : ValueReader) (cs : List Char) :
    Option ((List String × String × Value) × List Char) := do
  let (path, rest) ← path? cs
  let key ← path.getLast?
  match rest with
  | '=' :: rest =>
    let (v, rest) ← value (skipBlanks rest)
    return ((path.dropLast, key, v), skipBlanks rest)
  | _ => none

def inlineEntries (value : ValueReader) (entries : Entries) :
    Nat → List Char → Option (Entries × List Char)
  | 0, _ => none
  | fuel + 1, cs => do
    let ((path, key, v), rest) ← keyValue? value cs
    let entries ← entries.insert path key v
    match rest with
    | ',' :: rest => inlineEntries value entries fuel rest
    | '}' :: rest => return (entries, rest)
    | _ => none

def value? : (depth : Nat) → ValueReader
  | 0 => fun cs =>
    match cs with
    | '[' :: _ | '{' :: _ => none
    | _ => simpleValue? cs
  | depth + 1 => fun cs =>
    match cs with
    | '[' :: rest => do
      let (items, rest) ← arrayItems (value? depth) (rest.length + 1) rest
      return (.array items, rest)
    | '{' :: rest =>
      match skipBlanks rest with
      | '}' :: rest => some (.table .inline [], rest)
      | cs => do
        let (entries, rest) ← inlineEntries (value? depth) [] (cs.length + 1) cs
        return (.table .inline entries, rest)
    | _ => simpleValue? cs

structure Progress where
  root : Entries := []
  path : List String := []

def header? (closing : List Char) (cs : List Char) :
    Option ((List String × String) × List Char) := do
  let (path, rest) ← path? cs
  let key ← path.getLast?
  if closing.isPrefixOf rest then
    let rest ← lineEnd (skipBlanks (rest.drop closing.length))
    return ((path.dropLast, key), rest)
  else none

def line? (p : Progress) : List Char → Option (Progress × List Char)
  | '[' :: '[' :: rest => do
    let ((path, key), rest) ← header? [']', ']'] rest
    return (⟨← p.root.defineElement path key, path ++ [key]⟩, rest)
  | '[' :: rest => do
    let ((path, key), rest) ← header? [']'] rest
    return (⟨← p.root.define path key, path ++ [key]⟩, rest)
  | cs => do
    let ((path, key, v), rest) ← keyValue? (value? (depthLimit - 1)) cs
    let rest ← lineEnd rest
    let root ← p.root.changeAtHeader p.path fun _ entries => entries.insert path key v
    return (⟨root, p.path⟩, rest)

def lines (p : Progress) : Nat → List Char → Option Entries
  | 0, _ => none
  | fuel + 1, cs =>
    match skipBlanks cs with
    | [] => some p.root
    | cs =>
      match lineEnd cs with
      | some rest => lines p fuel rest
      | none => do
        let (p, rest) ← line? p cs
        lines p fuel rest

def document? (text : List Char) : Option Entries :=
  let cs := match text with
    | '\uFEFF' :: rest => rest
    | cs => cs
  lines {} (cs.length + 1) cs

end PictureFrame.Toml
