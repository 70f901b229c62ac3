import Regenesis.Text.Digit
import Regenesis.Text.Quoted

/-!
# CommandLine.Arguments — options among arguments

An argument is an option if it names one: in full, by the beginning of a long name that no other
long name has, or, for a one-letter option, with its value or further one-letter options attached.
A value may follow an equals sign or be the next argument, unless that is itself an option; numbers
with a minus sign and texts with a space in them are no options. Nothing but options is expected.
Behind two lone dashes nothing is an option; attached to an option, they say that it is given
without a value.
-/

namespace Regenesis.CommandLine

/-- An option: the names it goes by, and whether a value belongs to it. -/
structure OptionSpec (α : Type) where
  key : α
  names : List String
  takesValue : Bool

/-- Why arguments are refused. -/
inductive UsageFault where
  /-- The beginning of more than one name. -/
  | ambiguous (argument : String)
  /-- An option without its value. -/
  | missingValue (name : String)
  /-- A value for an option that takes none. -/
  | superfluousValue (value : String)
  /-- Arguments that are no options. -/
  | unexpected
  /-- A value that is not allowed. -/
  | badValue (name value : String)
  /-- An option that must be there. -/
  | missing (name : String)
  /-- The previous snapshot is not below the snapshot. -/
  | heightOrder
deriving DecidableEq, Repr

/-- The message of a usage fault. -/
def UsageFault.message : UsageFault → String
  | .ambiguous argument => s!"{argument} is the beginning of more than one option"
  | .missingValue name => s!"{name} needs a value"
  | .superfluousValue value => "no value is expected, but there is " ++ Text.quote value
  | .unexpected => "there are arguments that are no options"
  | .badValue name value => s!"{name} cannot be " ++ Text.quote value
  | .missing name => s!"{name} must be given"
  | .heightOrder => "--snapshot-height-prev must be below --snapshot-height"

/-- The options of one argument. -/
structure Group (α : Type) where
  /-- Options that take no value, by key and the name that was used. -/
  flags : List (α × String)
  /-- An option behind them that takes a value, with the value if it is in the same argument. -/
  valued : Option (α × String × Option String)

/-- What an argument is. -/
inductive Item (α : Type) where
  /-- A plain argument, which may be the value of the option before it. -/
  | plain (text : String)
  /-- Neither an option nor a value. -/
  | stray
  | group (g : Group α)
  /-- An option that is written in a wrong way. -/
  | fault (f : UsageFault)

/-- How an argument names an option: the option, the name, and what is attached. -/
structure Naming (α : Type) where
  spec : OptionSpec α
  name : String
  attached : Option String

variable {α : Type}

/-- The options with their names, one name at a time. -/
def namedSpecs (specs : List (OptionSpec α)) : List (String × OptionSpec α) :=
  specs.flatMap fun s => s.names.map (·, s)

/-- The option of a name. -/
def findSpec? (specs : List (OptionSpec α)) (name : String) : Option (OptionSpec α) :=
  (namedSpecs specs).lookup name

/-- A text before and after its first equals sign, if it has one. -/
def splitEquals? (s : String) : Option (String × String) :=
  let cs := s.toList
  match cs.dropWhile (· != '=') with
  | [] => none
  | _ :: value => some (String.ofList (cs.takeWhile (· != '=')), String.ofList value)

/-- The options that an argument may be an abbreviation of, or a one-letter option with something
attached. -/
def candidates (specs : List (OptionSpec α)) (argument : String) : List (Naming α) :=
  match argument.toList with
  | '-' :: '-' :: _ =>
    let (beginning, value) :=
      match splitEquals? argument with
      | some (name, value) => (name, some value)
      | none => (argument, none)
    (namedSpecs specs).filterMap fun (name, s) =>
      if name.startsWith beginning then some ⟨s, name, value⟩ else none
  | dash :: letter :: rest =>
    (namedSpecs specs).filterMap fun (name, s) =>
      if name = String.ofList [dash, letter] then
        some ⟨s, name, some (String.ofList rest)⟩
      else if name.startsWith argument then some ⟨s, name, none⟩
      else none
  | _ => []

/-- An option with its value after an equals sign. -/
def assignment? (specs : List (OptionSpec α)) (argument : String) : Option (Naming α) := do
  let (name, value) ← splitEquals? argument
  return ⟨← findSpec? specs name, name, some value⟩

/-- A text without a line feed at its end. -/
def dropFinalLineFeed (cs : List Char) : List Char :=
  if cs.getLast? == some '\n' then cs.dropLast else cs

/-- Whether a text is a minus sign with a number, in the digits of any script, with or without a
line feed at its end. -/
def isNegativeNumber (cs : List Char) : Bool :=
  let isDigit (c : Char) : Bool := (Text.decimalValue? c).isSome
  match dropFinalLineFeed cs with
  | '-' :: rest =>
    match rest.dropWhile isDigit with
    | [] => !rest.isEmpty
    | '.' :: fraction => !fraction.isEmpty && fraction.all isDigit
    | _ => false
  | _ => false

/-- An option without anything attached. -/
def lone (s : OptionSpec α) (name : String) : Group α :=
  if s.takesValue then ⟨[], some (s.key, name, none)⟩ else ⟨[(s.key, name)], none⟩

/-- The group with an option in front that takes no value. -/
def Group.behind (s : OptionSpec α) (name : String) (g : Group α) : Group α :=
  { g with flags := (s.key, name) :: g.flags }

/-- An option with something attached to it: its value, or, if it takes none and is a one-letter
option, further ones. The first of them may stand behind an equals sign. -/
def withAttached (specs : List (OptionSpec α)) (s : OptionSpec α) (name : String) :
    List Char → Except UsageFault (Group α)
  | [] =>
    if s.takesValue then .ok ⟨[], some (s.key, name, some "")⟩ else .error (.superfluousValue "")
  | letter :: rest =>
    let value := String.ofList (letter :: rest)
    if s.takesValue then .ok ⟨[], some (s.key, name, some value)⟩
    else if name.startsWith "--" then .error (.superfluousValue value)
    else
      let next := String.ofList ['-', letter]
      match findSpec? specs next with
      | none => .error (.superfluousValue value)
      | some s' =>
        if rest.isEmpty then .ok ((lone s' next).behind s name)
        else (withAttached specs s' next rest).map (Group.behind s name)

/-- The options of an argument that names one. -/
def Naming.item (specs : List (OptionSpec α)) (n : Naming α) : Item α :=
  match n.attached with
  | none => .group (lone n.spec n.name)
  | some value =>
    match withAttached specs n.spec n.name value.toList with
    | .ok g => .group g
    | .error f => .fault f

/-- What an argument is. An abbreviation of more than one name is refused at once. -/
def itemOf (specs : List (OptionSpec α)) (argument : String) : Except UsageFault (Item α) :=
  if !argument.startsWith "-" || argument = "-" then .ok (.plain argument)
  else
    match findSpec? specs argument with
    | some s => .ok (.group (lone s argument))
    | none =>
      match assignment? specs argument, candidates specs argument with
      | some n, _ | none, [n] => .ok (n.item specs)
      | none, _ :: _ :: _ => .error (.ambiguous argument)
      | none, [] =>
        if isNegativeNumber argument.toList || argument.toList.contains ' ' then
          .ok (.plain argument)
        else .ok .stray

/-- What all arguments are. -/
def items (specs : List (OptionSpec α)) : List String → Except UsageFault (List (Item α))
  | [] => .ok []
  | argument :: rest =>
    if argument = "--" then .ok (.stray :: rest.map .plain)
    else do
      let item ← itemOf specs argument
      return item :: (← items specs rest)

-- ---------------------------------------------------------------------------
-- Options with values
-- ---------------------------------------------------------------------------

/-- An option that was given, by the name that was used, with its value. -/
structure Given (α : Type) where
  key : α
  name : String
  /-- The value; `none` for an option that takes none, or that is given without one. -/
  value : Option String

/-- The value that an attached text states: two lone dashes state none. -/
def statedValue (attached : String) : Option String :=
  if attached = "--" then none else some attached

/-- Takes options one after the other. `take` may refuse an option, or end the reading. -/
def takeAll {σ : Type} (take : σ → Given α → Except UsageFault (σ × Bool)) :
    σ → List (Given α) → Except UsageFault (σ × Bool)
  | s, [] => .ok (s, false)
  | s, g :: rest => do
    let (s, stop) ← take s g
    if stop then return (s, true) else takeAll take s rest

/-- Takes the options among items, all options of an argument as soon as the last of them has its
value; and tells whether something else was among the items. -/
def foldOptions {σ : Type} (take : σ → Given α → Except UsageFault (σ × Bool)) :
    σ → Bool → List (Item α) → Except UsageFault (σ × Bool)
  | s, stray, [] => .ok (s, stray)
  | s, _, .plain _ :: rest | s, _, .stray :: rest => foldOptions take s true rest
  | _, _, .fault f :: _ => .error f
  | s, stray, .group g :: rest =>
    let flags := g.flags.map fun (key, name) => Given.mk key name none
    match g.valued, rest with
    | some (key, name, none), .plain text :: rest => do
      let (s, stop) ← takeAll take s (flags ++ [⟨key, name, some text⟩])
      if stop then return (s, false) else foldOptions take s stray rest
    | some (_, name, none), _ => .error (.missingValue name)
    | some (key, name, some attached), rest => do
      let (s, stop) ← takeAll take s (flags ++ [⟨key, name, statedValue attached⟩])
      if stop then return (s, false) else foldOptions take s stray rest
    | none, rest => do
      let (s, stop) ← takeAll take s flags
      if stop then return (s, false) else foldOptions take s stray rest

end Regenesis.CommandLine
