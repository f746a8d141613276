import SchemaAudit.Text.Blank

/-!
The words of a command line, told apart: options with their values, and operands. An option is a word that
starts with a hyphen; its value is the next word, whatever that is, or stands behind an equals sign in the
same word. Two hyphens end the options.
-/

namespace SchemaAudit.CommandLine

/-- Options in the order given, each with its value or with none, and the operands. -/
structure Words where
  options : List (String × Option String)
  operands : List String
  deriving DecidableEq, Repr

/-- Words with an option before them. -/
def Words.withOption (name : String) (value : Option String) (w : Words) : Words :=
  { w with options := (name, value) :: w.options }

/-- Words with an operand before them. -/
def Words.withOperand (word : String) (w : Words) : Words := { w with operands := word :: w.operands }

/-- Whether a word is an option. A hyphen by itself is none. -/
def isOption (word : String) : Bool :=
  match word.toList with
  | '-' :: _ :: _ => true
  | _ => false

/-- The name of an option, and the value in the same word. -/
def splitOption (word : String) : String × Option String :=
  match Text.cutAtChar '=' word.toList with
  | some (name, value) => (String.ofList name, some (String.ofList value))
  | none => (word, none)

/-- Words told apart, unless an option among them is not known, lacks its value or takes none.
`takesValue?` knows the options; unless options may follow operands, the first operand ends them. -/
def Words.read? (takesValue? : String → Option Bool) (mixed : Bool) : List String → Option Words
  | [] => some ⟨[], []⟩
  | word :: rest =>
    if word = "--" then some ⟨[], rest⟩
    else if isOption word then
      match splitOption word, rest with
      | (name, some value), rest =>
        if takesValue? name = some true then
          (Words.read? takesValue? mixed rest).map (·.withOption name (some value))
        else none
      | (name, none), [] => if takesValue? name = some false then some ⟨[(name, none)], []⟩ else none
      | (name, none), value :: rest =>
        match takesValue? name with
        | some true => (Words.read? takesValue? mixed rest).map (·.withOption name (some value))
        | some false => (Words.read? takesValue? mixed (value :: rest)).map (·.withOption name none)
        | none => none
    else if mixed then (Words.read? takesValue? mixed rest).map (·.withOperand word)
    else some ⟨[], word :: rest⟩

end SchemaAudit.CommandLine
