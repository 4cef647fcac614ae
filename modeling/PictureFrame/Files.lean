import PictureFrame.Basic

set_option autoImplicit false

namespace PictureFrame

inductive FileError
  | missing
  | notDirectory
  | isDirectory
  | nameTooLong
  | nulInName
  | notUtf8
  deriving DecidableEq, Repr

def FileError.message : FileError → String
  | .missing => "No such file or directory (os error 2)"
  | .notDirectory => "Not a directory (os error 20)"
  | .isDirectory => "Is a directory (os error 21)"
  | .nameTooLong => "File name too long (os error 36)"
  | .nulInName => "file name contained an unexpected NUL byte"
  | .notUtf8 => "stream did not contain valid UTF-8"

abbrev Files := String → Except FileError Bytes

/-- Where a path has led so far. -/
inductive Place
  | home
  | outside
  | file (contents : Bytes)

namespace Place

def nameLimit : Nat := 255

def follow (entries : List (String × Bytes)) (place : Place) (part : String) :
    Except FileError Place :=
  match place with
  | .file _ => .error .notDirectory
  | directory =>
    if part = "" ∨ part = "." then .ok directory
    else if part = ".." then .ok .outside
    else if nameLimit < part.utf8ByteSize then .error .nameTooLong
    else
      match directory, entries.lookup part with
      | .home, some contents => .ok (.file contents)
      | _, _ => .error .missing

def contents : Place → Except FileError Bytes
  | .file contents => .ok contents
  | _ => .error .isDirectory

end Place

namespace Files

def pathLimit : Nat := 4096

/-- The files of the working directory. A path may pass through the directory itself, but nothing,
not even a slash, may follow the name of a file. -/
def ofDirectory (entries : List (String × Bytes)) : Files := fun path =>
  if path = "" then .error .missing
  else if path.toList.contains '\x00' then .error .nulInName
  else if pathLimit ≤ path.utf8ByteSize then .error .nameTooLong
  else
    let start : Place := if path.toList.head? = some '/' then .outside else .home
    match (path.splitOn "/").foldlM (Place.follow entries) start with
    | .error cause => .error cause
    | .ok place => place.contents

def text (files : Files) (path : String) : Except FileError String :=
  match files path with
  | .error cause => .error cause
  | .ok bytes =>
    match String.fromUTF8? ⟨bytes⟩ with
    | some s => .ok s
    | none => .error .notUtf8

end Files

/-- A point in front begins a hidden name and no extension. -/
def extension? (path : String) : Option String :=
  let name := ((path.toList.reverse.dropWhile (· = '/')).takeWhile (· ≠ '/')).reverse
  let ending := (name.reverse.takeWhile (· ≠ '.')).reverse
  if ending.length + 1 < name.length ∧ name ≠ ['.', '.'] then some (String.ofList ending) else none

/-- A binary pixel map, with three bytes for each pixel. No other format is decoded; what is stated
about pictures is stated for every decoder. -/
structure Image where
  width : Nat
  height : Nat
  samples : Bytes

namespace Image

def isSpace (b : UInt8) : Bool := b = 9 || b = 10 || b = 11 || b = 12 || b = 13 || b = 32

def wordFrom (inComment : Bool) (done : List Char) : List UInt8 → Option (List Char × List UInt8)
  | [] => if done.isEmpty then none else some (done.reverse, [])
  | b :: rest =>
    if inComment then wordFrom (b ≠ 10 && b ≠ 13) done rest
    else if b = 35 then wordFrom true done rest
    else if isSpace b then
      if done.isEmpty then wordFrom false [] rest else some (done.reverse, rest)
    else if b < 128 then wordFrom false (Char.ofNat b.toNat :: done) rest
    else none

def numeral? (bytes : List UInt8) : Option (Nat × List UInt8) := do
  let (word, rest) ← wordFrom false [] bytes
  let value ← Numeral.digits? 10 word
  if value ≤ 0xFFFFFFFF then some (value, rest) else none

def decode? (bytes : Bytes) : Option Image :=
  match bytes.toList with
  | 0x50 :: 0x36 :: header => do
    let (width, rest) ← numeral? header
    let (height, rest) ← numeral? rest
    let (maximum, rest) ← numeral? rest
    let size := width * height * 3
    let samples := rest.toArray
    if maximum = 255 ∧ size ≤ samples.size then
      some ⟨width, height, samples.extract 0 size⟩
    else none
  | _ => none

def extensions : List String := ["pbm", "pgm", "ppm", "pnm", "pam"]

def load? (files : Files) (path : String) : Option Image := do
  let ending ← extension? path
  if extensions.contains ending.toLower then decode? (← (files path).toOption) else none

def color (image : Image) (x y : Nat) : Color :=
  let start := (y * image.width + x) * 3
  .solid (image.samples.getD start 0) (image.samples.getD (start + 1) 0)
    (image.samples.getD (start + 2) 0)

/-- Takes for every pixel the nearest one of the image, which is exact for an image of the wanted
size and for one of one colour. -/
def scaled (image : Image) (width height : Nat) : Bytes :=
  if image.width = 0 ∨ image.height = 0 then Array.replicate (width * height * 4) 0
  else
    (List.range height).foldl (fun done y =>
      (List.range width).foldl (fun done x =>
        done ++ (image.color (x * image.width / width) (y * image.height / height)).toBytes.toArray)
        done) #[]

end Image
end PictureFrame
