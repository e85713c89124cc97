/-
A list of records as a YAML document: a sequence of mappings, each with its kind first
and then the fields in the order of declaration. Absent fields have no value.

Scalars that are too long for one line are folded. A line is broken at a single space when
it has already become too long; the space is given up, and the next line is indented. A
plain word that is longer than a line by itself gets a line of its own. A scalar that fits is
never broken, so `scalarAt` is `scalar` for every text that is short enough
(`scalarAt_of_fits`).
-/
import Famix.Entity.Basic
import Famix.Yaml.Scalar

set_option autoImplicit false

namespace Famix.Yaml

/-! ## Folding -/

/-- The columns of a line. -/
def lineWidth : Nat := 4096

/-- The end of a line and the indentation of the next one. -/
def nextLine : Text := '\n' :: scalarIndent

/-- The kinds of characters between which a scalar can be broken. -/
def sameRun (c d : Char) : Bool := (c == ' ') == (d == ' ') && isBreak c == isBreak d

/-- Whether a run is one space, which can be given up. -/
def isSingleSpace (run : Text) : Bool := run == [' ']

/-- The runs of a plain text from a column on, with line ends put in. -/
def foldPlain (column : Nat) : List Text → Text
  | [] => []
  | run :: runs =>
    -- the space is what is given up for the end of the line
    if isSingleSpace run && lineWidth < column then
      nextLine ++ foldPlain scalarIndent.length runs
    -- a word that fits no line gets one of its own, unless it is at the beginning of one already
    else if run.head? != some ' ' && lineWidth < run.length && scalarIndent.length < column then
      nextLine ++ run ++ foldPlain (scalarIndent.length + run.length) runs
    else run ++ foldPlain (column + run.length) runs

/-- The runs of a text in single quotes from a column on, with line ends put in. `first`
says whether nothing comes before them. -/
def foldSingle (column : Nat) (first : Bool) : List Text → Text
  | [] => []
  | run :: runs =>
    -- a line end in the text starts a new line by itself
    if run.head?.any isBreak then
      run ++ scalarIndent ++ foldSingle scalarIndent.length false runs
    else if isSingleSpace run && lineWidth < column && !first && !runs.isEmpty then
      nextLine ++ foldSingle scalarIndent.length false runs
    else run ++ foldSingle (column + run.length) false runs

/-- A text in double quotes from a column on, with line ends put in. `first` says whether
nothing comes before it, `behindEscape` whether an escape does. Two spaces at the end of a
line are kept by backslashes. -/
def foldDouble (column : Nat) (first behindEscape : Bool) : Text → Text
  | [] => []
  | [c] => escape c
  | c :: d :: rest =>
    let shown := escape c
    if shown != [c] then
      let after := column + shown.length
      if !first && lineWidth + 1 < after then
        -- a space behind the escape is given up with the line
        shown ++ nextLine ++
          if d = ' ' then foldDouble scalarIndent.length false true rest
          else foldDouble scalarIndent.length false true (d :: rest)
      else shown ++ foldDouble after false true (d :: rest)
    else if !first && (c == ' ' || behindEscape) && lineWidth < column then
      if c != ' ' then nextLine ++ c :: foldDouble (scalarIndent.length + 1) false false (d :: rest)
      else if d = ' ' then
        '\\' :: nextLine ++ '\\' :: ' ' ::
          foldDouble (scalarIndent.length + 2) false false (d :: rest)
      else nextLine ++ foldDouble scalarIndent.length false true (d :: rest)
    else c :: foldDouble (column + 1) false false (d :: rest)

/-- A text as a scalar behind a label that ends at a column, broken into lines. -/
def folded (column : Nat) (text : Text) : Text :=
  match ScalarStyle.of text with
  | .plain => ' ' :: foldPlain (column + 1) (text.splitBy sameRun)
  | .single => " '".toList ++ foldSingle (column + 2) true (text.splitBy sameRun) ++ ['\'']
  | .double => " \"".toList ++ foldDouble (column + 2) true false text ++ ['"']

/-- A text as a scalar behind a label that ends at a column. -/
def scalarAt (column : Nat) (text : Text) : Text :=
  let onOneLine := ' ' :: scalar text
  -- for what fits the folding would change nothing
  if column + onOneLine.length ≤ lineWidth then onOneLine else folded column text

/-- A number as a scalar behind a label that ends at a column. It is one plain word. -/
def numberAt (column : Nat) (value : Int) : Text :=
  ' ' :: foldPlain (column + 1) [Text.ofInt value]

/-- A scalar that fits is not broken. -/
theorem scalarAt_of_fits {column : Nat} {text : Text}
    (h : column + (scalar text).length < lineWidth) :
    scalarAt column text = ' ' :: scalar text := by
  unfold scalarAt
  rw [if_pos]
  simp only [List.length_cons]
  omega

/-! ## Documents -/

/-- What follows the colon of a field, which ends at a column. -/
def fieldValue (column : Nat) : Field → Text
  | .text content => scalarAt column content
  | .number value => numberAt column value
  | .absent => []

/-- The line of a field. -/
def fieldLine (field : Text × Field) : Text :=
  let label := "    ".toList ++ field.1 ++ [':']
  label ++ fieldValue label.length field.2 ++ ['\n']

/-- The lines of a record. -/
def recordLines (entity : Entity) : Text :=
  "  - kind: ".toList ++ entity.kind.name ++ ['\n'] ++ entity.fields.flatMap fieldLine

/-- The document of a list of records. -/
def snapshot : List Entity → Text
  -- a sequence without members has a form of its own
  | [] => "[]\n".toList
  | entities => entities.flatMap recordLines

/-- The document of a list of records, if all numbers in it can be written. -/
def document (entities : List Entity) : Except Fault Text :=
  if entities.all Entity.isWritable then .ok (snapshot entities) else .error .tooLarge

end Famix.Yaml
