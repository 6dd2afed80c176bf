/-!
# Words of a command line

A command line consists of words.  Words that start with a hyphen are options; an option either takes a
value or is a flag, and several options of one letter may share a word.  The word `--` ends the options.
What is neither an option nor the value of one is an argument.
-/

namespace SparkGateway.Command

/-- An option of a command. -/
structure Flag where
  /-- The name under which it is read. -/
  name : String
  /-- Its long form, hyphens included. -/
  long : String
  /-- Its letter, if it has one. -/
  letter : Option Char
  /-- Whether it takes a value. -/
  takesValue : Bool
  deriving DecidableEq, Repr

/-- An option that was given, with its value; a flag has the empty value. -/
structure Given where
  /-- The name of the option. -/
  name : String
  /-- Its value. -/
  value : String
  deriving DecidableEq, Repr

/-- What a command line says: its options in order, and its arguments. -/
structure Reading where
  /-- The options. -/
  options : List Given
  /-- The arguments. -/
  arguments : List String
  deriving DecidableEq, Repr

/-- Why a command line is not carried out. -/
inductive Refused where
  /-- It asks for help. -/
  | help
  /-- It cannot be read. -/
  | unreadable
  deriving DecidableEq, Repr

/-- The exit code of a command line that is not carried out. -/
def Refused.code : Refused → Int
  | help => 0
  | unreadable => 2

/-- The value of an option: what its word holds, or else the next word.  The number says how many of the
following words are used. -/
def valueFrom (name : String) (inWord : Option String) (following : List String) :
    Except Refused (Given × Nat) :=
  match inWord, following with
  | some v, _ => .ok (⟨name, v⟩, 0)
  | none, v :: _ => .ok (⟨name, v⟩, 1)
  | none, [] => .error .unreadable

/-- Reads options of one letter that share a word.  The number says how many of the following words are
used. -/
def readLetters (flags : List Flag) (following : List String) :
    List Char → Except Refused (List Given × Nat)
  | [] => .ok ([], 0)
  | c :: cs =>
    match flags.find? fun f => f.letter == some c with
    | none => .error .unreadable
    | some f =>
      if f.takesValue then do
        let inWord := if cs.isEmpty then none else some (String.ofList cs)
        let (g, used) ← valueFrom f.name inWord following
        return ([g], used)
      else do
        let (gs, used) ← readLetters flags following cs
        return (⟨f.name, ""⟩ :: gs, used)

/-- The part of a word before its first equals sign, and the part after it if there is one. -/
def cutValue (word : List Char) : String × Option String :=
  let name := word.takeWhile fun c => c ≠ '='
  match word.dropWhile fun c => c ≠ '=' with
  | [] => (String.ofList name, none)
  | _ :: value => (String.ofList name, some (String.ofList value))

/-- Reads a word that starts with a hyphen.  The number says how many of the following words are
used. -/
def readOption (flags : List Flag) (word : String) (following : List String) :
    Except Refused (List Given × Nat) :=
  let (name, inWord) := cutValue word.toList
  match flags.find? fun f => f.long == name with
  | some f =>
    if f.takesValue then do
      let (g, used) ← valueFrom f.name inWord following
      return ([g], used)
    else if inWord.isSome then .error .unreadable
    else .ok ([⟨f.name, ""⟩], 0)
  | none =>
    match word.toList with
    | _ :: '-' :: _ => .error .unreadable
    | _ :: letters => readLetters flags following letters
    | [] => .error .unreadable

/-- Whether a word is an option. -/
def isOption (word : String) : Bool :=
  match word.toList with
  | '-' :: _ :: _ => true
  | _ => false

/-- Reads a command line.  If arguments do not mix with options, the first argument ends the options. -/
def read (flags : List Flag) (mixed : Bool) : List String → Except Refused Reading
  | [] => .ok ⟨[], []⟩
  | word :: rest =>
    if word = "--" then .ok ⟨[], rest⟩
    else if isOption word then
      match readOption flags word rest with
      | .error e => .error e
      | .ok (given, used) => do
        let r ← read flags mixed (rest.drop used)
        return ⟨given ++ r.options, r.arguments⟩
    else if mixed then do
      let r ← read flags mixed rest
      return ⟨r.options, word :: r.arguments⟩
    else .ok ⟨[], word :: rest⟩
termination_by words => words.length
decreasing_by
  · simp only [List.length_drop, List.length_cons]
    omega
  · simp

/-- The option that asks for help. -/
def helpFlag : Flag := ⟨"help", "--help", none, false⟩

/-- Reads a command line that may ask for help. -/
def readOrHelp (flags : List Flag) (mixed : Bool) (words : List String) : Except Refused Reading := do
  let r ← read (helpFlag :: flags) mixed words
  if r.options.any fun g => g.name == "help" then throw .help
  return r

namespace Reading

/-- All values of an option, in order. -/
def values (r : Reading) (name : String) : List String :=
  (r.options.filter fun g => g.name == name).map Given.value

/-- The last value of an option. -/
def value? (r : Reading) (name : String) : Option String := (r.values name).getLast?

/-- Whether an option is given. -/
def has (r : Reading) (name : String) : Bool := r.options.any fun g => g.name == name

end Reading

end SparkGateway.Command
