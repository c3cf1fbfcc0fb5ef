/-!
# Options on a command line

A command line is read from left to right. A word that begins with a hyphen and is longer than that is an
option, and two hyphens alone end the options. A long option may carry its value after an equals sign;
short options may stand together after one hyphen, and what follows one that takes a value is its value.
Otherwise the value is the next word, whatever it looks like.
-/

namespace FragmentSearch.Command

/-! ## 1. What can go wrong -/

/-- What is wrong with a command line. -/
inductive UsageFault where
  | unknownOption (name : String)
  | valueMissing (name : String)
  | valueUnwanted (name : String)
  | noCommand
  | unknownCommand (name : String)
  | argumentMissing (name : String)
  | argumentUnwanted (word : String)
  /-- A value does not fit its option. -/
  | unfitValue (value : String)
  /-- A path does not lead to what is wanted. -/
  | unfitPath (path : String)
  deriving DecidableEq, Repr

/-- The report of a fault. -/
def UsageFault.message : UsageFault → String
  | .unknownOption name => "No such option: " ++ name
  | .valueMissing name => "Option '" ++ name ++ "' requires an argument."
  | .valueUnwanted name => "Option '" ++ name ++ "' does not take a value."
  | .noCommand => "Missing command."
  | .unknownCommand name => "No such command '" ++ name ++ "'."
  | .argumentMissing name => "Missing argument '" ++ name ++ "'."
  | .argumentUnwanted word => "Got unexpected extra argument (" ++ word ++ ")"
  | .unfitValue value => "Invalid value: '" ++ value ++ "'."
  | .unfitPath path => "Invalid path: '" ++ path ++ "'."

/-! ## 2. Options -/

/-- An option: a hyphen with a letter or two hyphens with a name, and whether a value follows. -/
structure OptionRule where
  name : String
  takesValue : Bool
  deriving DecidableEq, Repr

/-- The options and the other words of a command line, both in their order. -/
structure Words where
  options : List (String × Option String) := []
  rest : List String := []
  deriving DecidableEq, Repr

/-- The rule for an option. -/
def ruleOf (rules : List OptionRule) (name : String) : Option OptionRule := rules.find? (·.name = name)

/-- Is the word an option? -/
def isOption : List Char → Bool
  | '-' :: _ :: _ => true
  | _ => false

/-- Has the word two hyphens at its beginning? -/
def isLong : List Char → Bool
  | '-' :: '-' :: _ => true
  | _ => false

/-- The name of an option and the value after the equals sign. -/
def splitEquals (word : List Char) : String × Option String :=
  match word.dropWhile (· ≠ '=') with
  | _ :: value => (String.ofList (word.takeWhile (· ≠ '=')), some (String.ofList value))
  | [] => (String.ofList word, none)

/-- What an option word says: the options, and the name of one whose value is the next word. -/
abbrev Said := List (String × Option String) × Option String

/-- Reads the letters of short options. -/
def readShort (rules : List OptionRule) : List Char → Except UsageFault Said
  | [] => .ok ([], none)
  | c :: r =>
    let name := String.ofList ['-', c]
    match ruleOf rules name with
    | none => .error (.unknownOption name)
    | some rule =>
      if rule.takesValue then
        .ok (if r.isEmpty then ([], some name) else ([(name, some (String.ofList r))], none))
      else (readShort rules r).map fun said => ((name, none) :: said.1, said.2)

/-- Reads a long option with its rule. -/
def readLong (rule : OptionRule) (value : Option String) : Except UsageFault Said :=
  match rule.takesValue, value with
  | true, some v => .ok ([(rule.name, some v)], none)
  | true, none => .ok ([], some rule.name)
  | false, none => .ok ([(rule.name, none)], none)
  | false, some _ => .error (.valueUnwanted rule.name)

/-- Reads an option word. -/
def readOption (rules : List OptionRule) (word : List Char) : Except UsageFault Said :=
  if isLong word then
    let (name, value) := splitEquals word
    match ruleOf rules name with
    | some rule => readLong rule value
    | none => .error (.unknownOption name)
  else readShort rules (word.drop 1)

/-! ## 3. Command lines -/

/-- The words with some options before them. -/
def Words.withOptions (options : List (String × Option String)) (w : Words) : Words :=
  { w with options := options ++ w.options }

/-- The words with another word before them. -/
def Words.withWord (word : String) (w : Words) : Words := { w with rest := word :: w.rest }

/-- Reads a command line. If options may not stand between the other words, they end with the first of
them. -/
def readWords (rules : List OptionRule) (between : Bool) : List String → Except UsageFault Words
  | [] => .ok {}
  | word :: r =>
    if word = "--" then .ok { rest := r }
    else if isOption word.toList then
      match readOption rules word.toList with
      | .error e => .error e
      | .ok (options, none) => (readWords rules between r).map (Words.withOptions options)
      | .ok (options, some name) =>
        match r with
        | [] => .error (.valueMissing name)
        | value :: r => (readWords rules between r).map (Words.withOptions (options ++ [(name, some value)]))
    else if between then (readWords rules between r).map (Words.withWord word)
    else .ok { rest := word :: r }

namespace Words

/-- The last value given for an option of these names. -/
def value? (names : List String) (w : Words) : Option String :=
  (w.options.reverse.find? fun o => names.contains o.1).bind (·.2)

/-- Was an option of these names given? -/
def has (names : List String) (w : Words) : Bool := w.options.any fun o => names.contains o.1

/-- Which of two opposite options was given last, if any: true stands for the first of them. -/
def choice? (on off : String) (w : Words) : Option Bool :=
  (w.options.reverse.find? fun o => o.1 = on || o.1 = off).map (·.1 = on)

end Words

end FragmentSearch.Command
