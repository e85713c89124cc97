/-
The grammar of expressions. A rule says how a phrase is read, given how the phrases inside
it are read; `phrase` ties the rules together. The rules under "Mistakes" look for known
mistakes, and are asked only by advising readers. There are no square brackets, since they
would end the mark that an action stands in.
-/
import Famix.Action.Reader

set_option autoImplicit false

namespace Famix.Action.Grammar

open Reader

/-- How phrases are read. -/
abbrev Phrases := Phrase → Reader Expr

/-- Any of some keywords. -/
def anyKeyword (words : List String) : Reader Unit := firstOf (words.map keyword)

/-- Any of some symbols. -/
def anySymbol (symbols : List String) : Reader Unit := firstOf (symbols.map symbol)

/-- What stands in round brackets. -/
def inRound {α : Type} (reader : Reader α) : Reader α := do
  symbol "("
  let value ← reader
  symbol ")"
  return value

/-- The curly bracket that opens. -/
def openCurly : String := "\x7b"

/-- The curly bracket that closes. -/
def closeCurly : String := "\x7d"

/-- What stands in curly brackets. -/
def inCurly {α : Type} (reader : Reader α) : Reader α := do
  symbol openCurly
  let value ← reader
  symbol closeCurly
  return value

/-- A comma that may stand behind the last of several things. -/
def lastComma : Reader Unit := do
  let _ ← optional (symbol ",")
  return ()

section Rules

variable (read : Phrases)

/-! ## Rows of expressions -/

/-- A row of expressions. With a comma it is a tuple. -/
def row (reader : Reader Expr) : Reader Expr := do
  let first ← reader
  let others ← many do symbol ","; reader
  let comma ← optional (symbol ",")
  -- a single expression is a tuple only with a comma behind it
  if others.isEmpty && comma.isNone then return first else return .tuple (first :: others)

/-- An expression behind a star. -/
def starred (phrase : Phrase) : Reader Expr := do
  symbol "*"
  let source ← read phrase
  return .starred source

/-- A name that takes the value of an expression. -/
def binding : Reader Expr := do
  let _ ← name
  symbol ":="
  let _ ← read .expression
  return .other .binding

/-- An expression that is not the left side of a binding. -/
def unbound : Reader Expr := do
  let expr ← read .expression
  notFollowedBy (symbol ":=")
  return expr

/-- An expression or a binding. -/
def named : Reader Expr :=
  firstOf [binding read, advising (read .bindingMistake), unbound read]

/-- An element of a tuple or set. -/
-- what a star is put in front of holds no comparison outside brackets
def element : Reader Expr := firstOf [starred read .bitOr, named read]

/-- The elements of a tuple or set. -/
def elements : Reader (List Expr) := do
  let elements ← separated (element read) (symbol ",")
  lastComma
  return elements

/-! ## Generators -/

/-- The targets of a loop. -/
def targets : Reader Unit :=
  firstOf [
    do
      let _ ← read .target
      notFollowedBy (symbol ","),
    do
      let _ ← separated (read .target) (symbol ",")
      lastComma]

/-- The targets of a loop that cannot take values. -/
def targetMistake : Reader Unit := do
  let _ ← optional (keyword "async")
  keyword "for"
  let expr ← row (read .starExpression)
  match expr.badTarget? with
  | some kind => mistaken (.badAssignment kind)
  | none => absent

/-- A loop with its conditions. Behind `in` there is no way back. -/
def loop : Reader Unit := do
  let begun ← optional do
    let _ ← optional (keyword "async")
    keyword "for"
    targets read
    keyword "in"
  -- once the keyword of the source has been read the loop is not given up any more; without it the
  -- words may still be a known mistake
  match begun with
  | some () =>
    let _ ← read .disjunction
    let _ ← many do keyword "if"; read .disjunction
    return ()
  | none => advising (targetMistake read)

/-- The loops of a generator. -/
def loops : Reader Unit := do
  let _ ← oneOrMore (loop read)
  return ()

/-- Mistakes in what a generator generates. In round brackets only a star is one. -/
def generatorMistake : Reader Expr :=
  firstOf [
    do
      anySymbol ["(", openCurly]
      let _ ← starred read .expression
      loops read
      mistaken .starredInGenerator,
    do
      symbol openCurly
      let _ ← element read
      symbol ","
      let _ ← elements read
      loops read
      mistaken .bareGeneratorTarget,
    do
      symbol openCurly
      let _ ← element read
      symbol ","
      loops read
      mistaken .bareGeneratorTarget]

/-- A generator. -/
def generator : Reader Expr :=
  firstOf [
    inRound do
      let _ ← firstOf [binding read, unbound read]
      loops read
      return .other .generator,
    advising (generatorMistake read)]

/-! ## Round and curly brackets -/

/-- A tuple. -/
def tuple : Reader Expr := inRound do
  let found ← optional do
    let first ← element read
    symbol ","
    let others ← optional (elements read)
    return first :: others.getD []
  return .tuple (found.getD [])

/-- A question for a value that the caller gives. -/
def yield : Reader Expr := do
  keyword "yield"
  let _ ← firstOf [
    do
      keyword "from"
      let _ ← read .expression
      return (),
    do
      let _ ← optional (row (read .starExpression))
      return ()]
  return .other .yield

/-- Stars in front of an expression in brackets. -/
def groupMistake : Reader Expr :=
  firstOf [
    do
      let _ ← inRound (starred read .expression)
      mistaken .starredHere,
    do
      inRound do
        symbol "**"
        let _ ← read .expression
        return ()
      mistaken .doubleStarredHere]

/-- An expression in brackets. -/
def group : Reader Expr :=
  -- known mistakes are looked for only when no expression can be read in the brackets
  firstOf [inRound (firstOf [yield read, named read]), advising (groupMistake read)]

/-- A key with its value. -/
def entry : Reader Expr := do
  let key ← read .expression
  symbol ":"
  let value ← read .expression
  return .entry key value

/-- An entry of a dictionary, or those of another one. -/
def dictEntry : Reader Expr :=
  firstOf [
    do
      symbol "**"
      let source ← read .bitOr
      return .unpacked source,
    entry read]

/-- A value that begins with a star, or is not there. -/
def valueMistakes : List (Reader Expr) := [
  do
    let _ ← read .expression
    symbol ":"
    symbol "*"
    let _ ← read .bitOr
    mistaken .starredValue,
  do
    let _ ← read .expression
    symbol ":"
    followedBy (anySymbol [closeCurly, ","])
    mistaken .missingValue]

/-- A mistake in an entry behind others. -/
def entryMistake : Reader Expr :=
  firstOf (
    (do
      let _ ← read .expression
      notFollowedBy (symbol ":")
      mistaken .missingColon) ::
    valueMistakes read)

/-- A mistake in the entries of a dictionary. -/
def dictMistake : Reader Expr :=
  firstOf (
    (do
      let _ ← separated (dictEntry read) (symbol ",")
      symbol ","
      entryMistake read) ::
    valueMistakes read)

/-- A dictionary. Mistakes in its entries are always looked for. -/
def dict : Reader Expr :=
  firstOf [
    inCurly do
      let entries ← optional do
        let entries ← separated (dictEntry read) (symbol ",")
        lastComma
        return entries
      return .dict (entries.getD []),
    do
      symbol openCurly
      dictMistake read]

/-- A set. -/
def set : Reader Expr := inCurly do
  let elements ← elements read
  return .set elements

/-- A dictionary that is generated. -/
def dictGenerator : Reader Expr :=
  firstOf [
    inCurly do
      let _ ← entry read
      loops read
      return .other .dictGenerator,
    advising do
      inCurly do
        symbol "**"
        let _ ← read .bitOr
        loops read
      mistaken .unpackedInGenerator]

/-- A set that is generated. -/
def setGenerator : Reader Expr :=
  firstOf [
    inCurly do
      let _ ← named read
      loops read
      return .other .setGenerator,
    advising (generatorMistake read)]

/-! ## Atoms, calls, attributes -/

/-- The value that a keyword stands for. -/
def constantWord (word : String) (constant : Constant) : Reader Expr := do
  keyword word
  return .constant constant

/-- Quotations side by side. -/
def quotations : Reader Expr := do
  let found ← oneOrMore quotation
  settle (Quotation.join found)

/-- A number. -/
def number : Reader Expr := do
  let written ← numeral
  -- a numeral that is too long is refused as it is read, not when its value is asked for
  match Numeral.excess? written with
  | some count => mistaken (.tooManyDigits count)
  | none => return .constant (.number (Numeral.isImaginary written))

/-- The smallest expressions. -/
def atom : Reader Expr :=
  firstOf [
    do
      let word ← name
      return .name word,
    constantWord "True" .truth,
    constantWord "False" .falsehood,
    constantWord "None" .nothing,
    quotations,
    number,
    do
      -- a bracket may open any of these, and the first that can be read to its end counts
      followedBy (symbol "(")
      firstOf [tuple read, group read, generator read],
    do
      followedBy (symbol openCurly)
      firstOf [dict read, set read, dictGenerator read, setGenerator read],
    do
      symbol "..."
      return .constant .ellipsis]

/-- The arguments of a call. -/
def callArguments : Reader Expr := inRound do
  let found ← optional (read .arguments)
  return found.getD (.arguments [])

/-- What can stand behind an expression to make a larger one of it: as a function from the
expression in front. -/
def trailers : List (Reader (Expr → Expr)) := [
  do
    symbol "."
    let _ ← name
    return fun _ => .other .member,
  do
    let _ ← generator read
    return fun function => .call function [.plain],
  do
    let call ← callArguments read
    match call with
    | .arguments arguments => return fun function => .call function arguments
    | _ => return fun function => .call function []]

/-- An atom with attributes and calls. -/
def primary : Reader Expr := do
  let first ← atom read
  let behind ← many (firstOf (trailers read))
  return behind.foldl (fun expr wrap => wrap expr) first

/-- An expression that may be waited for. -/
def awaited : Reader Expr :=
  firstOf [
    do
      keyword "await"
      let _ ← read .primary
      return .other .await,
    read .primary]

/-! ## Targets of loops -/

/-- Whether something follows that takes part of the expression in front. -/
def trailerAhead : Reader Unit := followedBy (anySymbol ["(", "."])

/-- What owns the attribute that is a target. -/
def targetOwner : Reader Expr := do
  let first ← atom read
  trailerAhead
  let behind ← many do
    let wrap ← firstOf (trailers read)
    trailerAhead
    return wrap
  return behind.foldl (fun expr wrap => wrap expr) first

/-- A target without a star. -/
def innerTarget : Reader Expr :=
  firstOf [
    do
      let _ ← read .targetOwner
      symbol "."
      let _ ← name
      notFollowedBy trailerAhead
      return .other .member,
    do
      let word ← name
      return .name word,
    inRound (read .innerTarget),
    inRound do
      let _ ← optional do
        let first ← read .target
        symbol ","
        let _ ← optional (separated (read .target) (symbol ","))
        lastComma
        return first
      return .tuple []]

/-- A target. -/
def target : Reader Expr :=
  firstOf [
    do
      symbol "*"
      notFollowedBy (symbol "*")
      read .target,
    read .innerTarget]

/-! ## Operators -/

/-- Operands with operators between them. -/
def chain (operand : Phrase) (operator : Reader (Expr → Expr → Expr)) : Reader Expr := do
  let first ← read operand
  let others ← many do
    let combine ← operator
    let right ← read operand
    return (combine, right)
  return others.foldl (fun left (combine, right) => combine left right) first

/-- Operators of whose operands nothing is kept. -/
def plainOperators (symbols : List String) : Reader (Expr → Expr → Expr) := do
  anySymbol symbols
  return fun _ _ => .other .operation

/-- Plus and minus. -/
def sumOperators : Reader (Expr → Expr → Expr) := do
  anySymbol ["+", "-"]
  return .sum

/-- A power. -/
def power : Reader Expr := do
  let base ← read .awaited
  let exponent ← optional do symbol "**"; read .factor
  return if exponent.isSome then .other .operation else base

/-- An operand with its signs. -/
def factor : Reader Expr :=
  firstOf [
    do
      anySymbol ["+", "-"]
      let operand ← read .factor
      return .signed operand,
    do
      symbol "~"
      let _ ← read .factor
      return .other .operation,
    power read]

/-- A comparison with what follows it: whether it asks for membership. -/
def comparisons : List (Reader Bool) := [
  do anySymbol ["==", "!=", "<=", "<", ">=", ">"]; let _ ← read .bitOr; return false,
  do keyword "not"; keyword "in"; let _ ← read .bitOr; return false,
  do keyword "in"; let _ ← read .bitOr; return true,
  do keyword "is"; keyword "not"; let _ ← read .bitOr; return false,
  do keyword "is"; let _ ← read .bitOr; return false]

/-- Comparisons in a row. -/
def comparison : Reader Expr := do
  let left ← read .bitOr
  let found ← many (firstOf (comparisons read))
  match found with
  | [] => return left
  | membership :: _ => return .comparison membership left

/-- A denial. -/
def inversion : Reader Expr :=
  firstOf [
    do
      keyword "not"
      let _ ← read .inversion
      return .other .operation,
    comparison read]

/-- Operands with a word between them. -/
def wordChain (operand : Phrase) (word : String) : Reader Expr := do
  let first ← read operand
  let others ← many do keyword word; read operand
  return if others.isEmpty then first else .other .operation

/-- A choice between two expressions. -/
def conditional : Reader Expr := do
  let _ ← read .disjunction
  keyword "if"
  let _ ← read .disjunction
  keyword "else"
  let _ ← read .expression
  return .other .conditional

/-! ## Functions without a name -/

/-- A parameter. -/
def parameter : Reader Unit :=
  firstOf [
    symbol "/",
    do symbol "**"; let _ ← name; return (),
    do symbol "*"; let _ ← optional name; return (),
    do
      let _ ← name
      let _ ← optional do symbol "="; read .expression
      return ()]

/-- A function without a name. -/
def lambda : Reader Expr := do
  keyword "lambda"
  let _ ← optional do
    let _ ← separated (parameter read) (symbol ",")
    lastComma
  symbol ":"
  let _ ← read .expression
  return .other .lambda

/-- An expression, mistakes apart. -/
def correct : List (Reader Expr) :=
  [conditional read, read .disjunction, lambda read]

/-! ## Arguments -/

/-- An argument that is no keyword. -/
def positional : Reader Argument :=
  firstOf [
    do
      let _ ← starred read .expression
      return .starred,
    do
      let _ ← firstOf [binding read, unbound read]
      notFollowedBy (symbol "=")
      return .plain]

/-- Mistakes in front of an equals sign, and behind it. -/
def keywordMistake : Reader Argument :=
  firstOf [
    do
      keyword "True"
      symbol "="
      mistaken (.badAssignment .truth),
    do
      keyword "False"
      symbol "="
      mistaken (.badAssignment .falsehood),
    do
      keyword "None"
      symbol "="
      mistaken (.badAssignment .nothing),
    do
      let _ ← name
      symbol "="
      let _ ← read .expression
      loops read
      mistaken .singleEquals,
    do
      notFollowedBy do
        let _ ← name
        symbol "="
      let _ ← read .expression
      symbol "="
      mistaken .assignmentInArgument]

/-- An argument with a keyword. -/
def keywordArgument : Reader Argument := do
  let _ ← name
  symbol "="
  let _ ← read .expression
  return .keyword

/-- A keyword or an argument with a star. -/
def keywordOrStarred : Reader Argument :=
  firstOf [
    advising (keywordMistake read),
    keywordArgument read,
    do
      let _ ← starred read .expression
      return .starred]

/-- A keyword or an argument with two stars. -/
def keywordOrUnpacked : Reader Argument :=
  firstOf [
    advising (keywordMistake read),
    keywordArgument read,
    do
      symbol "**"
      let _ ← read .expression
      return .unpacked]

/-- The arguments that begin with a keyword. -/
def keywordArguments : Reader (List Argument) :=
  firstOf [
    do
      let first ← separated (keywordOrStarred read) (symbol ",")
      symbol ","
      let second ← separated (keywordOrUnpacked read) (symbol ",")
      return first ++ second,
    separated (keywordOrStarred read) (symbol ","),
    separated (keywordOrUnpacked read) (symbol ",")]

/-- Arguments in their order. -/
def argumentList : Reader (List Argument) :=
  firstOf [
    do
      let first ← separated (positional read) (symbol ",")
      let second ← optional do symbol ","; keywordArguments read
      return first ++ second.getD [],
    keywordArguments read]

/-- Mistakes in arguments. -/
def argumentMistake : Reader Expr :=
  firstOf [
    do
      let _ ← argumentList read
      symbol ","
      symbol "*"
      mistaken .starredBehindUnpacked,
    do
      let _ ← read .expression
      loops read
      symbol ","
      let _ ← optional (firstOf [
        do
          let _ ← argumentList read
          return (),
        do
          let _ ← read .expression
          loops read])
      mistaken .bareGenerator,
    do
      let _ ← name
      symbol "="
      let _ ← read .expression
      loops read
      mistaken .singleEquals,
    do
      let found ← argumentList read
      loops read
      require (1 < found.countP fun argument => argument = .plain ∨ argument = .starred)
      mistaken .bareGenerator,
    do
      let _ ← argumentList read
      symbol ","
      let _ ← read .expression
      loops read
      mistaken .bareGenerator,
    do
      let found ← argumentList read
      symbol ","
      let _ ← argumentList read
      mistaken (if found.contains .unpacked then .plainBehindUnpacked else .plainBehindKeyword)]

/-- The arguments of a call. -/
def arguments : Reader Expr :=
  firstOf [
    do
      let found ← argumentList read
      lastComma
      followedBy (symbol ")")
      return .arguments found,
    advising (argumentMistake read)]

/-! ## Mistakes -/

/-- The words that once could be called without brackets. -/
def oldStatements : List String := ["print", "exec"]

/-- Whether a word is one of them. -/
def isOldStatement (word : Text) : Bool := oldStatements.any fun other => other.toList == word

/-- The names that have a meaning of their own in some places. -/
def softKeywords : List String := ["_", "case", "match"]

/-- The beginning of a name that has a meaning of its own in some places. -/
def softKeyword : Reader Unit := do
  let word ← name
  require (softKeywords.any fun other => word.isPrefixOf other.toList)

/-- Two expressions side by side in brackets, or a choice without the other case. -/
def expressionMistake : Reader Expr :=
  firstOf [
    do
      notFollowedBy (firstOf [
        do
          let _ ← name
          let _ ← quotation
          return (),
        softKeyword])
      let left ← read .disjunction
      let _ ← read .unadvised
      let old :=
        match left with
        | .name word => isOldStatement word
        | _ => false
      let inside ← insideBrackets
      require (!old && inside)
      mistaken .forgottenComma,
    do
      let _ ← read .disjunction
      keyword "if"
      let _ ← read .disjunction
      notFollowedBy (firstOf [keyword "else", symbol ":"])
      mistaken .missingElse]

/-- A call without brackets. -/
def callMistake : Reader Expr := do
  let word ← name
  notFollowedBy (symbol "(")
  let _ ← row (read .starExpression)
  require (isOldStatement word)
  mistaken (.missingParentheses word)

/-- An equals sign that does not follow. -/
def noMoreEquals : Reader Unit := notFollowedBy (anySymbol ["=", ":="])

/-- The sign of a binding behind something else than a name, or an equals sign where there
can be no assignment. -/
def bindingMistake : Reader Expr :=
  firstOf [
    do
      let left ← read .expression
      symbol ":="
      let _ ← read .expression
      mistaken (.badBinding left.kind),
    do
      let _ ← name
      symbol "="
      let _ ← read .bitOr
      noMoreEquals
      mistaken .singleEquals,
    do
      notFollowedBy (firstOf [
        do
          let _ ← firstOf [tuple read, generator read]
          return (),
        anyKeyword ["True", "None", "False"]])
      let left ← read .bitOr
      symbol "="
      let _ ← read .bitOr
      noMoreEquals
      mistaken (.singleEqualsAt left.kind)]

/-! ## All phrases -/

/-- How each phrase is read. -/
def rule : Phrase → Reader Expr
  | .expression =>
    firstOf (advising (expressionMistake read) :: advising (callMistake read) :: correct read)
  | .unadvised => unadvising (firstOf (correct read))
  | .starExpression => firstOf [starred read .bitOr, read .expression]
  | .disjunction => wordChain read .conjunction "or"
  | .conjunction => wordChain read .inversion "and"
  | .inversion => inversion read
  | .bitOr => chain read .bitXor (plainOperators ["|"])
  | .bitXor => chain read .bitAnd (plainOperators ["^"])
  | .bitAnd => chain read .shift (plainOperators ["&"])
  | .shift => chain read .sum (plainOperators ["<<", ">>"])
  | .sum => chain read .term sumOperators
  | .term => chain read .factor (plainOperators ["*", "/", "//", "%", "@"])
  | .factor => factor read
  | .awaited => awaited read
  | .primary => primary read
  | .arguments => arguments read
  | .bindingMistake => bindingMistake read
  | .target => target read
  | .innerTarget => innerTarget read
  | .targetOwner => targetOwner read

end Rules

/-- How a phrase is read, with phrases inside phrases up to a depth. -/
def phrase : (depth : Nat) → Phrases
  | 0, _ => absent
  | depth + 1, .unadvised => rule (phrase depth) .unadvised
  | depth + 1, part => remembered part (rule (phrase depth) part)

/-- How deep phrases can stand inside each other: no phrase begins twice at one token. -/
def depthFor (tokens : List Token) : Nat := 32 * (tokens.length + 1)

/-- A whole text: a row of expressions, and perhaps line ends. -/
def whole (read : Phrases) : Reader Expr := do
  let expr ← row (read .expression)
  let _ ← many (token .lineEnd)
  token .finish
  return expr

/-- The expression that a text writes. -/
def parse (text : Text) : Except Mistake Expr := do
  let tokens ← Token.read text
  let reader := whole (phrase (depthFor tokens)) tokens.toArray
  match ← reader { advising := false } with
  | (some expr, _) => .ok expr
  | (none, _) => do
    let _ ← reader { advising := true }
    .error .invalid

end Famix.Action.Grammar
