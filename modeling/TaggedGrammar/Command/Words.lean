import TaggedGrammar.Command.Switch

/-!
# Taking the words of a command line

The words are taken from left to right. The operand is the first word that is no switch and no value of one.
Words that nothing takes are left over.
-/

namespace TaggedGrammar.Command

/-- What a command line gives. -/
structure Given where
  /-- The switches in order, by their long names, with their values. -/
  switches : List (String × String)
  /-- The words of the operand. -/
  operand : Option (List String)
  /-- The words that nothing took. -/
  left : List String

namespace Given

/-- Nothing. -/
def nothing : Given := ⟨[], none, []⟩

/-- The last value of a switch. -/
def value? (g : Given) (key : String) : Option String :=
  g.switches.reverse.lookup key

/-- Whether a switch is set. -/
def isSet (g : Given) (key : String) : Bool :=
  (g.value? key).isSome

end Given

/-- The words with their roles that are still to be taken. -/
abbrev Words := List (String × Role)

/-- The number of words at the front that the operand takes: the first one, with a double dash before or
behind it, or that word and all behind it. -/
def operandLength (takesRest : Bool) (words : Words) : Nat :=
  let isSeparator (w : String × Role) : Bool := match w.2 with
    | .separator => true
    | _ => false
  let before := (words.takeWhile isSeparator).length
  match words.drop before with
  | (_, .operand) :: rest =>
    if takesRest then words.length else before + 1 + (rest.takeWhile isSeparator).length
  | _ => 0

namespace Form

/-- Refuses a word that the operand may not be. -/
def checkChoice (f : Form) (o : Operand) (word : String) : Except Stop Unit :=
  if o.choices.isEmpty || o.choices.contains word then .ok ()
  else f.misuseAt o.name ("invalid choice: " ++ Text.quoted word ++ " (choose from " ++
    Text.join ", " (o.choices.map fun (c : String) => Text.quoted c) ++ ")")

/-- Takes the operand, if it is not taken yet and stands at the front. -/
def takeOperand (f : Form) (g : Given) (words : Words) : Except Stop (Given × Words) :=
  match f.operand, g.operand with
  | some o, none => do
    let n := operandLength o.takesRest words
    if n = 0 then return (g, words)
    let taken := (words.take n).map (·.1)
    let value := if o.takesRest then taken else taken.erase "--"
    f.checkChoice o (value.headD "")
    return ({ g with operand := some value }, words.drop n)
  | _, _ => .ok (g, words)

/-- The effect of a switch without a value. -/
def applyFlag (f : Form) (version : String) (s : Switch) (g : Given) : Except Stop Given :=
  match s.effect with
  | .help => .error (.shown f.help)
  | .version => .error (.shown version)
  | .flag | .value => .ok { g with switches := g.switches ++ [(s.key, "")] }

/-- The switches that are written in one word behind a dash: `s` and those that the attached letters
name. -/
def joinedSwitches (f : Form) (s : Switch) : (letters : List Char) → Except Stop (List Switch)
  | [] => .ok [s]
  | c :: rest =>
    match f.spellings.lookup (String.ofList ['-', c]) with
    | some next => do return s :: (← f.joinedSwitches next rest)
    | none => f.misuseAt s.label ("ignored explicit argument " ++ Text.quoted (String.ofList (c :: rest)))

/-- The effect of a switch with an attached value. -/
def applyAttached (f : Form) (version : String) (s : Switch) (spelling value : String) (g : Given) :
    Except Stop Given :=
  if s.effect = .value then .ok { g with switches := g.switches ++ [(s.key, value)] }
  else if beginsWith "--" spelling || value.isEmpty then
    f.misuseAt s.label ("ignored explicit argument " ++ Text.quoted value)
  else do
    let all ← f.joinedSwitches s value.toList
    all.foldlM (fun g s => f.applyFlag version s g) g

/-- Takes the words from left to right. -/
def takeWords (f : Form) (version : String) : (fuel : Nat) → Given → Words → Except Stop Given
  | 0, g, _ => .ok g
  | fuel + 1, g, words => do
    match words with
    | [] => return g
    | (word, .stray) :: rest => f.takeWords version fuel { g with left := g.left ++ [word] } rest
    | (_, .switch s spelling (some value)) :: rest =>
      f.takeWords version fuel (← f.applyAttached version s spelling value g) rest
    | (_, .switch s _ none) :: rest =>
      if s.effect = .value then
        match rest with
        | (value, .operand) :: rest =>
          f.takeWords version fuel { g with switches := g.switches ++ [(s.key, value)] } rest
        | _ => f.misuseAt s.label "expected one argument"
      else f.takeWords version fuel (← f.applyFlag version s g) rest
    | _ =>
      let (g, rest) ← f.takeOperand g words
      if rest.length < words.length then f.takeWords version fuel g rest
      else
        let plain := words.takeWhile fun w => !w.2.isSwitch
        f.takeWords version fuel { g with left := g.left ++ plain.map (·.1) } (words.drop plain.length)

/-- What the words give; the operand must be there. -/
def read (f : Form) (version : String) (words : List String) : Except Stop Given := do
  let roles ← f.roles words
  let given ← f.takeWords version (2 * words.length + 1) .nothing roles
  match f.operand, given.operand with
  | some o, none => f.misuse ("the following arguments are required: " ++ o.name)
  | _, _ => return given

end Form

end TaggedGrammar.Command
