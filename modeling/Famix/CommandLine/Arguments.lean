/-
Reading the arguments of a command: options, which begin with a dash, and operands.

Long options may be shortened as long as only one fits, their values may follow in the
next argument or behind an equals sign, and short options that take no value may be joined
in one argument: each letter is an option, and an equals sign among them has no meaning.
Everything behind the first `--` is an operand. Options act in the order in which they
stand; arguments that nothing wants are collected and reported by the caller.
-/
import Famix.Text.Character
import Famix.Text.Quoted

set_option autoImplicit false

namespace Famix.CommandLine

/-- What an option does. -/
inductive Effect (α : Type) where
  | showHelp
  | showVersion
  | set (setting : α)
  | take (setting : Text → α)

/-- An option with its spellings, a short one before the long one. -/
structure OptionSpec (α : Type) where
  names : List Text
  effect : Effect α

/-- The operands that a command wants. -/
inductive Operands where
  | nothing
  | one
  /-- An operand and all arguments behind it. -/
  | rest
deriving DecidableEq, Repr

/-- What a command understands. -/
structure Interface (α : Type) where
  /-- The words by which the command is called. -/
  program : Text
  usage : Text
  /-- What the help says below the usage. -/
  description : Text
  options : List (OptionSpec α)
  operands : Operands
  /-- What the version option says. -/
  version : Text := []

/-- Why a command ends before it has begun. -/
inductive Stop where
  /-- It was asked for a text, and this is the text. -/
  | tell (text : Text)
  /-- Its arguments are wrong; the text says how. -/
  | refuse (text : Text)
deriving DecidableEq, Repr

namespace Interface

variable {α : Type}

/-- The help of a command. -/
def help (interface : Interface α) : Stop := .tell (interface.usage ++ interface.description)

/-- A refusal with the usage in front of it. -/
def refusal (interface : Interface α) (message : Text) : Stop :=
  .refuse (interface.usage ++ interface.program ++ ": error: ".toList ++ message ++ ['\n'])

/-- All spellings of all options. -/
def spellings (interface : Interface α) : List (Text × OptionSpec α) :=
  interface.options.flatMap fun spec => spec.names.map fun name => (name, spec)

end Interface

/-! ## Recognising options -/

/-- An argument as it is understood before anything acts. An option may have a text
attached to it in the same argument. -/
inductive Token (α : Type) where
  | divider
  | operand (text : Text)
  | unknown (text : Text)
  | option (text : Text) (spec : OptionSpec α) (name : Text) (attached : Option Text)

/-- An argument as it was given. -/
def Token.text {α : Type} : Token α → Text
  | divider => "--".toList
  | operand text => text
  | unknown text => text
  | option text _ _ _ => text

/-- A text before and after its first equals sign. -/
def cutAtEquals (text : Text) : Text × Option Text :=
  match text.dropWhile (· != '=') with
  | [] => (text, none)
  | _ :: value => (text.takeWhile (· != '='), some value)

/-- A text without the newline at its end, if there is one. -/
def withoutFinalNewline (text : Text) : Text :=
  if text.getLast? = some '\n' then text.dropLast else text

/-- Whether a text looks like a negative number, which is an operand: digits, or a point
with digits behind it and perhaps before it. -/
def looksNegative (text : Text) : Bool :=
  match withoutFinalNewline text with
  | '-' :: number =>
    -- the digits may be of any script
    match number.dropWhile Text.isDigit with
    | [] => !number.isEmpty
    | '.' :: fraction => !fraction.isEmpty && fraction.all Text.isDigit
    | _ => false
  | _ => false

section

variable {α : Type} (interface : Interface α)

/-- The options that an argument may be short for: long ones by the beginning of their
name, short ones with the rest of the argument attached. -/
def candidates (argument : Text) : List (Text × OptionSpec α × Option Text) :=
  match argument with
  | '-' :: '-' :: _ =>
    let (start, value) := cutAtEquals argument
    interface.spellings.filterMap fun (name, spec) =>
      if start.isPrefixOf name then some (name, spec, value) else none
  | '-' :: letter :: joined =>
    interface.spellings.filterMap fun (name, spec) =>
      -- the rest of the argument is looked at only when the option acts
      if name = ['-', letter] then some (name, spec, some joined)
      else if argument.isPrefixOf name then some (name, spec, none)
      else none
  | _ => []

/-- Understands one argument. -/
def classify (argument : Text) : Except Stop (Token α) :=
  if !"-".toList.isPrefixOf argument then .ok (.operand argument)
  else
    match interface.spellings.lookup argument with
    -- a spelling in full wins over everything that it is a beginning of
    | some spec => .ok (.option argument spec argument none)
    | none =>
      -- a dash alone is an operand
      if argument.length = 1 then .ok (.operand argument)
      else
        let (start, value) := cutAtEquals argument
        -- a long option may have its value behind an equals sign
        match value, interface.spellings.lookup start with
        | some text, some spec => .ok (.option argument spec start (some text))
        | _, _ =>
          match candidates interface argument with
          | [(name, spec, attached)] => .ok (.option argument spec name attached)
          | [] =>
            -- no option looks like a number, and none has a blank in its name
            if looksNegative argument || argument.contains ' ' then .ok (.operand argument)
            else .ok (.unknown argument)
          | several =>
            .error (interface.refusal ("ambiguous option: ".toList ++ argument ++
              " could match ".toList ++ List.intercalate ", ".toList (several.map Prod.fst)))

/-- Understands all arguments. Behind the first `--` they are operands. -/
def classifyAll : List Text → Except Stop (List (Token α))
  | [] => .ok []
  | argument :: arguments =>
    -- only the first divider divides
    if argument = "--".toList then .ok (.divider :: arguments.map .operand)
    else do
      let token ← classify interface argument
      let tokens ← classifyAll arguments
      .ok (token :: tokens)

/-! ## Acting -/

/-- A refusal that names an option. -/
def optionRefusal (spec : OptionSpec α) (message : Text) : Stop :=
  interface.refusal ("argument ".toList ++ List.intercalate ['/'] spec.names ++
    ": ".toList ++ message)

/-- A refusal of a text attached to an option that takes none. -/
def ignoredText (spec : OptionSpec α) (text : Text) : Stop :=
  optionRefusal interface spec ("ignored explicit argument ".toList ++ Text.quoted text)

/-- Whether a spelling is a short one. -/
def isShort (name : Text) : Bool := name.getD 1 '-' != '-'

/-- The value that an attached text gives. The divider is no value. -/
def attachedValue (text : Text) : Text := if text = "--".toList then [] else text

/-- The effects of an option to which a text is attached. If it is a short one that takes
no value, the first letter of the text is the next option, and the rest is attached to
that one. Nothing acts if a letter is no option. -/
def joinedEffects (spec : OptionSpec α) (name : Text) (text : Text) :
    Except Stop (List (Effect α)) :=
  match spec.effect, text with
  | .take setting, text => .ok [.set (setting (attachedValue text))]
  -- an equals sign with nothing behind it attaches an empty text
  | _, [] => .error (ignoredText interface spec [])
  | effect, letter :: rest =>
    if !isShort name then .error (ignoredText interface spec (letter :: rest))
    else
      match interface.spellings.lookup ['-', letter] with
      | none => .error (ignoredText interface spec (letter :: rest))
      | some next =>
        match rest with
        | [] => .ok [effect, next.effect]
        | c :: more => do
          let effects ← joinedEffects next ['-', letter] (c :: more)
          .ok (effect :: effects)

/-- Lets effects act in order. -/
def act : List (Effect α) → Except Stop (List α)
  | [] => .ok []
  -- nothing behind it acts any more
  | .showHelp :: _ => .error interface.help
  | .showVersion :: _ => .error (.tell interface.version)
  | .set setting :: effects => do
    let settings ← act effects
    .ok (setting :: settings)
  | .take _ :: effects => act effects

end

/-! ## Reading all arguments -/

/-- What the arguments of a command amount to. -/
structure Arguments (α : Type) where
  settings : List α := []
  operands : List Text := []
  /-- Arguments that nothing wants. -/
  extras : List Text := []

namespace Arguments

variable {α : Type}

/-- Puts settings in front, which were read earlier. -/
def addSettings (settings : List α) (arguments : Arguments α) : Arguments α :=
  { arguments with settings := settings ++ arguments.settings }

/-- Puts unwanted arguments in front. -/
def addExtras (extras : List Text) (arguments : Arguments α) : Arguments α :=
  { arguments with extras := extras ++ arguments.extras }

/-- Puts an operand in front. -/
def addOperand (operand : Text) (arguments : Arguments α) : Arguments α :=
  { arguments with operands := operand :: arguments.operands }

end Arguments

variable {α : Type}

/-- Reads tokens from left to right, given the operands still wanted. A `--` is dropped
next to the operand that it makes one, and is an unwanted argument elsewhere. -/
def readTokens (interface : Interface α) :
    Operands → List (Token α) → Except Stop (Arguments α)
  | _, [] => .ok {}
  | wanted, .unknown text :: tokens => do
    let arguments ← readTokens interface wanted tokens
    .ok (arguments.addExtras [text])
  | wanted, .option _ spec name (some attached) :: tokens => do
    let effects ← joinedEffects interface spec name attached
    let settings ← act interface effects
    let arguments ← readTokens interface wanted tokens
    .ok (arguments.addSettings settings)
  | wanted, .option _ spec _ none :: tokens =>
    match spec.effect, tokens with
    | .take setting, .operand value :: tokens => do
      let arguments ← readTokens interface wanted tokens
      .ok (arguments.addSettings [setting value])
    -- an option or a divider is no value, and neither is the end
    | .take _, _ => .error (optionRefusal interface spec "expected one argument".toList)
    | effect, tokens => do
      let settings ← act interface [effect]
      let arguments ← readTokens interface wanted tokens
      .ok (arguments.addSettings settings)
  | .nothing, .operand text :: tokens => do
    let arguments ← readTokens interface .nothing tokens
    .ok (arguments.addExtras [text])
  | .nothing, .divider :: tokens => do
    let arguments ← readTokens interface .nothing tokens
    .ok (arguments.addExtras ["--".toList])
  -- the divider may stand on either side of the operand
  | .one, .operand text :: .divider :: tokens => do
    let arguments ← readTokens interface .nothing tokens
    .ok (arguments.addOperand text)
  | .one, .operand text :: tokens => do
    let arguments ← readTokens interface .nothing tokens
    .ok (arguments.addOperand text)
  | .one, .divider :: .operand text :: tokens => do
    let arguments ← readTokens interface .nothing tokens
    .ok (arguments.addOperand text)
  -- what is behind the operand is handed on as it was given, options included
  | .rest, .operand text :: tokens => .ok { operands := text :: tokens.map Token.text }
  | .rest, .divider :: .operand text :: tokens =>
    .ok { operands := "--".toList :: text :: tokens.map Token.text }
  | wanted, .divider :: tokens => do
    let arguments ← readTokens interface wanted tokens
    .ok (arguments.addExtras ["--".toList])

/-- Reads the arguments of a command. -/
def Interface.read (interface : Interface α) (arguments : List Text) :
    Except Stop (Arguments α) := do
  let tokens ← classifyAll interface arguments
  readTokens interface interface.operands tokens

end Famix.CommandLine
