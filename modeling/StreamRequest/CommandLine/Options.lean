/-
Options among the words of a command line.

A word that begins with a dash and is longer than that is an option. A long
option stands alone or carries its value behind an equals sign; an option that
takes a value may also have a short form, whose value may follow at once. A
missing value is the next word, whatever that looks like. Two dashes end the
options. Every other word is an operand; whether options may follow an operand
is for the caller to say. With a long option that is not known go the known ones
that it may be a slip of.
-/
import StreamRequest.Text.Similarity

namespace StreamRequest.CommandLine

/-- An option that a command knows. -/
inductive OptionSpec where
  /-- An option without a value. -/
  | flag (long : String)
  /-- An option with a value, and its short form if it has one. -/
  | valued (long : String) (short : Option Char)
  deriving DecidableEq, Repr

/-- The long form of an option, dashes included. -/
def OptionSpec.long : OptionSpec → String
  | .flag long => long
  | .valued long _ => long

/-- The letter of the short form of an option. -/
def OptionSpec.short? : OptionSpec → Option Char
  | .flag _ => none
  | .valued _ short => short

/-- A word that cannot be understood as an option. -/
inductive OptionFault where
  /-- No known option; `near` are the names it may be a slip of. -/
  | unknown (word : Bytes) (near : List String)
  | valueMissing (spelling : String)
  | valueUnexpected (spelling : String)
  deriving DecidableEq, Repr

/-- A word of the command line. -/
inductive Word where
  | operand
  /-- An option that is complete. -/
  | option (long : String) (value : Bytes)
  /-- An option whose value is the next word; `spelling` is the form it was given in. -/
  | awaiting (long : String) (spelling : String)
  deriving DecidableEq, Repr

def dash : UInt8 := 0x2D

def equalsSign : UInt8 := 0x3D

/-- The word that ends the options. -/
def endOfOptions : Bytes := [dash, dash]

/-- A word as a long option, if its part before the first equals sign names one. -/
def readLong? (specs : List OptionSpec) (word : Bytes) : Option (Except OptionFault Word) :=
  let (name, value) := word.splitFirst equalsSign
  (specs.find? fun spec => Utf8.ofText spec.long = name).map fun
    | .flag long =>
      if value.isSome then .error (.valueUnexpected long) else .ok (.option long [])
    | .valued long _ =>
      match value with
      | some given => .ok (.option long given)
      | none => .ok (.awaiting long long)

/-- The letter of a short option, as bytes, and what follows it in the word. -/
def splitLetter (letters : Bytes) : Bytes × Bytes :=
  match Utf8.pieces letters with
  | .char c :: _ => letters.splitAt (Utf8.encodeChar c).length
  | _ => letters.splitAt 1

/-- The letters behind a single dash as a short option with its value. -/
def readShort (specs : List OptionSpec) (letters : Bytes) : Except OptionFault Word :=
  let (letter, value) := splitLetter letters
  match specs.find? fun spec => spec.short?.map Utf8.encodeChar = some letter with
  | none => .error (.unknown (dash :: letter) [])
  | some spec =>
    if value = [] then
      .ok (.awaiting spec.long (.ofList ('-' :: spec.short?.toList)))
    else
      .ok (.option spec.long value)

/-- The fault of a word that begins with two dashes and is no long option. -/
def unknownLong (specs : List OptionSpec) (word : Bytes) : OptionFault :=
  let name := (word.splitFirst equalsSign).1
  .unknown name (Similarity.near (specs.map (·.long)) name)

/-- What a word is, given the options that the command knows. -/
def readWord (specs : List OptionSpec) (word : Bytes) : Except OptionFault Word :=
  match word with
  | first :: second :: rest =>
    if first = dash then
      match readLong? specs word with
      | some found => found
      | none =>
        if second = dash then .error (unknownLong specs word)
        else readShort specs (second :: rest)
    else .ok .operand
  | _ => .ok .operand

/-- The words of a command line, told apart. -/
structure Words where
  /-- The options with their values, in the order given. -/
  options : List (String × Bytes)
  operands : List Bytes
  deriving DecidableEq, Repr

namespace Words

/-- An option before the words. -/
def addOption (long : String) (value : Bytes) (words : Words) : Words :=
  { words with options := (long, value) :: words.options }

/-- An operand before the words. -/
def addOperand (word : Bytes) (words : Words) : Words :=
  { words with operands := word :: words.operands }

/-- Tells the words apart. If options may not be `mixed` with operands, the first operand ends
them. -/
def read (specs : List OptionSpec) (mixed : Bool) : List Bytes → Except OptionFault Words
  | [] => .ok ⟨[], []⟩
  | word :: rest =>
    if word = endOfOptions then .ok ⟨[], rest⟩
    else
      match readWord specs word with
      | .error fault => .error fault
      | .ok .operand =>
        if mixed then (read specs mixed rest).map (addOperand word) else .ok ⟨[], word :: rest⟩
      | .ok (.option long value) => (read specs mixed rest).map (addOption long value)
      | .ok (.awaiting long spelling) =>
        match rest with
        | [] => .error (.valueMissing spelling)
        | value :: rest => (read specs mixed rest).map (addOption long value)

/-- Whether an option is given. -/
def has (words : Words) (long : String) : Bool :=
  words.options.any (·.1 = long)

/-- The value of an option, the last one if it was given more than once. -/
def last? (words : Words) (long : String) : Option Bytes :=
  (words.options.reverse).lookup long

end Words

end StreamRequest.CommandLine
