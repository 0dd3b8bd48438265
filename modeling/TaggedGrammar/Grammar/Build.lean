import TaggedGrammar.Grammar.Document
import TaggedGrammar.Grammar.Names
import TaggedGrammar.Outcome
import TaggedGrammar.Pattern
import TaggedGrammar.Text.LowerCase
import TaggedGrammar.Value.Display

/-!
# Building grammars

The basic grammar of a host has one rule for each language. Its outer region looks ahead for a tag that
names any language, takes the first character of the comment, and tries the rules in table order.
-/

namespace TaggedGrammar.Grammar

/-- The aliases of all languages, in table order. -/
def allAliases (languages : List Language) : List Text :=
  languages.flatMap Language.identifiers

/-- The rule that takes whatever the embedded grammar leaves, so that the region is always matched. -/
def fallback : Rule := .matching "."

/-- A group with its number in decimal digits, if these can be displayed. -/
def groupScope? (group : Int × Text) : Option (Text × Text) :=
  (integerText? group.1).map fun digits => (Text.ofString digits, group.2)

/-- The scopes of groups in the order of their numbers. All of these must have a display. -/
def groupScopes (captures : Captures) : Outcome GroupScopes :=
  .ofOption .tooManyDigits ((captures.mergeSort fun a b => a.1 ≤ b.1).mapM groupScope?)

/-- The scopes of groups that may be absent. -/
def optionalScopes : Option Captures → Outcome (Option GroupScopes)
  | none => .ok none
  | some captures => do return some (← groupScopes captures)

/-- The region that a shape describes for some aliases. -/
def regionOf (shape : Boundary) (aliases : List Text) (name contentName : Option Text) (rules : List Rule) :
    Outcome Region := do
  let openingCaptures ← groupScopes shape.openingCaptures
  let closingCaptures ← optionalScopes shape.closingCaptures
  return { name, contentName
           opening := Pattern.fill shape.opening (Pattern.union aliases)
           openingCaptures
           closing := shape.closing
           closingCaptures
           rules }

/-- The region of one language inside a host, with a notice of it. -/
def buildRegion (host : Host) (language : Language) : Outcome Region := do
  Outcome.note (.pattern host.name language.name language.identifiers language.sources)
  regionOf host.tagged language.identifiers (some (templateScope host language)) (some (embeddedScope language))
    (language.sources.map Rule.include ++ [fallback])

/-- The outer region of a host: its rules are those of the languages, in table order. -/
def buildOuter (host : Host) (languages : List Language) : Outcome Region :=
  regionOf host.dispatch (allAliases languages) none none (languages.map fun l => .include ("#" ++ ruleKey l))

/-- Adds the rules of the languages to those built so far. A name that is there already is refused. -/
def buildRepository (host : Host) (done : List (Text × Region)) :
    List Language → Outcome (List (Text × Region))
  | [] => .ok done
  | l :: rest =>
    if done.any fun e => e.1 == ruleKey l then .fail (.inTable ["languages"] (.repeatedName l.name))
    else do
      let region ← buildRegion host l
      buildRepository host (done ++ [(ruleKey l, region)]) rest

/-- The basic grammar of a host. -/
def buildBasic (host : Host) (languages : List Language) : Outcome Basic := do
  let repository ← buildRepository host [] languages
  Outcome.note (.assembled host.name repository.length)
  let outer ← buildOuter host languages
  return { selector := basicSelector host.targetScopes
           outer
           repository
           scope := basicScope host }

/-- The reinjection grammar of a host. -/
def reinjection (host : Host) (languages : List Language) : Reinjection :=
  { selector := reinjectionSelector host.targetScopes languages
    rule := .include host.substitution
    scope := reinjectionScope host }

/-- The texts without repetitions, the first of each kept. -/
def distinct (texts : List Text) : List Text :=
  texts.foldl (fun kept t => if kept.contains t then kept else kept ++ [t]) []

/-- Adds a language to the owners of an alias. -/
def addOwner (language label : Text) : List (Text × List Text) → List (Text × List Text)
  | [] => [(label, [language])]
  | (a, owners) :: rest =>
    if a = label then (a, owners ++ [language]) :: rest
    else (a, owners) :: addOwner language label rest

/-- The owners of each alias in lower case, in order of first declaration. -/
def aliasOwners (languages : List Language) : List (Text × List Text) :=
  languages.foldl
    (fun owners l => (distinct (l.identifiers.map Text.lower)).foldl
      (fun owners a => addOwner l.name a owners) owners)
    []

/-- The aliases that more than one language declares, whatever their case, with those languages. -/
def sharedAliases (languages : List Language) : List (Text × List Text) :=
  (aliasOwners languages).filter fun e => 1 < e.2.length

end TaggedGrammar.Grammar
