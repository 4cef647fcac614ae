import PictureFrame.Basic

set_option autoImplicit false

namespace PictureFrame.CommandLine

inductive Command
  | list
  | info
  | clear (color : String)
  | paint (image : String)
  | backlight (level : UInt16)
  | watch (image : String) (interval : Option UInt64)
  deriving DecidableEq, Repr

structure Invocation where
  config : Option String
  device : Option String
  command : Command
  deriving DecidableEq, Repr

inductive Intent
  | run (invocation : Invocation)
  | version
  | help
  deriving DecidableEq, Repr

structure ValueOption where
  long : String
  short : Option Char := none
  accepts : String → Bool := fun _ => true

/-- What the arguments before a command, or after it, may be. -/
structure Grammar where
  options : List ValueOption := []
  operand : Option (String → Bool) := none
  /-- The options `--verbose` and `--version` are known. -/
  general : Bool := false
  commands : List String := []

structure Reading where
  values : List (String × String) := []
  operand : Option String := none
  verbose : Bool := false
  /-- An option whose value is the next argument. -/
  pending : Option ValueOption := none
  operandsOnly : Bool := false

inductive Ending
  | rejected
  | version
  | help
  | finished (r : Reading)
  | command (r : Reading) (name : String) (rest : List String)

namespace Reading

def give (r : Reading) (option : ValueOption) (value : String) : Option Reading :=
  if (r.values.lookup option.long).isSome || !option.accepts value then none
  else some { r with values := (option.long, value) :: r.values, pending := none }

def giveOperand (g : Grammar) (r : Reading) (value : String) : Option Reading :=
  match g.operand, r.operand with
  | some accepts, none => if accepts value then some { r with operand := some value } else none
  | _, _ => none

def beVerbose (r : Reading) : Option Reading :=
  if r.verbose then none else some { r with verbose := true }

end Reading

inductive Step
  | next (r : Reading)
  | stop (e : Ending)

def Step.ofOption : Option Reading → Step
  | some r => .next r
  | none => .stop .rejected

def longOption (g : Grammar) (r : Reading) (cs : List Char) : Step :=
  let name := String.ofList (cs.takeWhile (· ≠ '='))
  let value : Option String := match cs.dropWhile (· ≠ '=') with
    | '=' :: v => some (String.ofList v)
    | _ => none
  match g.options.find? (·.long = name) with
  | some option =>
    match value with
    | some v => .ofOption (r.give option v)
    | none => .next { r with pending := some option }
  | none =>
    if name = "help" && value.isNone then .stop .help
    else if g.general && name = "version" && value.isNone then .stop .version
    else if g.general && name = "verbose" && value.isNone then .ofOption r.beVerbose
    else .stop .rejected

def shortOptions (g : Grammar) (r : Reading) : List Char → Step
  | [] => .next r
  | c :: rest =>
    match g.options.find? (·.short = some c) with
    | some option =>
      match rest with
      | [] => .next { r with pending := some option }
      | '=' :: v => .ofOption (r.give option (String.ofList v))
      | v => .ofOption (r.give option (String.ofList v))
    | none =>
      if c = 'h' then .stop .help
      else if g.general && c = 'V' then .stop .version
      else if g.general && c = 'v' then
        match r.beVerbose with
        | some r => shortOptions g r rest
        | none => .stop .rejected
      else .stop .rejected

def isOptionLike : List Char → Bool
  | '-' :: _ :: _ => true
  | _ => false

/-- The next argument is the value of a pending option unless it looks like an option itself. -/
def read (g : Grammar) (r : Reading) : List String → Ending
  | [] => if r.pending.isSome then .rejected else .finished r
  | arg :: rest =>
    let cs := arg.toList
    if r.operandsOnly then
      match r.giveOperand g arg with
      | some r => read g r rest
      | none => .rejected
    else
      match r.pending with
      | some option =>
        if isOptionLike cs then .rejected
        else
          match r.give option arg with
          | some r => read g r rest
          | none => .rejected
      | none =>
        match cs with
        | ['-', '-'] => read g { r with operandsOnly := true } rest
        | '-' :: '-' :: name =>
          match longOption g r name with
          | .next r => read g r rest
          | .stop e => e
        | '-' :: c :: more =>
          match shortOptions g r (c :: more) with
          | .next r => read g r rest
          | .stop e => e
        | _ =>
          if g.commands.contains arg then .command r arg rest
          else
            match r.giveOperand g arg with
            | some r => read g r rest
            | none => .rejected

def isPath (s : String) : Bool := !s.isEmpty

def level? (s : String) : Option UInt16 :=
  (Numeral.signed? 10 0 65535 s.toList).map fun n => UInt16.ofNat n.toNat

def interval? (s : String) : Option UInt64 := do
  let n ← Numeral.unsigned? 10 0xFFFFFFFFFFFFFFFF s.toList
  if 1 ≤ n then some (UInt64.ofNat n) else none

def topGrammar : Grammar where
  options := [⟨"config", some 'c', isPath⟩, ⟨"device", some 'd', fun _ => true⟩]
  general := true
  commands := ["list", "info", "clear", "show", "backlight", "watch", "help"]

def defaultColor : String := "#000000"

def commandGrammar : String → Grammar
  | "clear" => { options := [⟨"color", none, fun _ => true⟩] }
  | "show" => { operand := some isPath }
  | "backlight" => { operand := some fun s => (level? s).isSome }
  | "watch" =>
    { options := [⟨"interval", none, fun s => (interval? s).isSome⟩], operand := some isPath }
  | _ => {}

def command? (name : String) (r : Reading) : Option Command :=
  match name with
  | "list" => some .list
  | "info" => some .info
  | "clear" => some (.clear ((r.values.lookup "color").getD defaultColor))
  | "show" => r.operand.map .paint
  | "backlight" => do return .backlight (← level? (← r.operand))
  | "watch" => do return .watch (← r.operand) ((r.values.lookup "interval").bind interval?)
  | _ => none

def helpOn? : List String → Option Intent
  | [] => some .help
  | [topic] => if topGrammar.commands.contains topic then some .help else none
  | _ => none

/-- Nothing if the command line is to be rejected. -/
def parse (args : List String) : Option Intent :=
  match read topGrammar {} args with
  | .version => some .version
  | .help => some .help
  | .rejected | .finished _ => none
  | .command top name rest =>
    if name = "help" then helpOn? rest
    else
      match read (commandGrammar name) {} rest with
      | .finished r => do
        let command ← command? name r
        return .run ⟨top.values.lookup "config", top.values.lookup "device", command⟩
      | .help => some .help
      | _ => none

end PictureFrame.CommandLine
