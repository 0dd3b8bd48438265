import TaggedGrammar.Hint.Basic
import TaggedGrammar.Table.Basic

/-!
# The shapes of tables

What a table file has to hold, as hints, and the typed tables that coerced records stand for.
-/

namespace TaggedGrammar

namespace Shape

/-- A field that must be given. -/
def required (name : String) (hint : Hint) : Field Hint :=
  { name, hint, default := none }

/-- A field with a default. -/
def defaulted (name : String) (hint : Hint) (value : Value) : Field Hint :=
  { name, hint, default := some value }

/-- Where the records of the tables are at home. -/
def home : Option String := some "ctg.config.model"

/-- A sequence of texts. -/
def texts : Hint := .run .str

/-- Group numbers with scopes. -/
def captures : Hint := .dict (.scalar .int) .str

/-- A language of the language table. -/
def language : Hint :=
  .record "EmbeddedLanguage" home
    [required "name" .str, required "identifiers" texts,
      required "source" (.oneOf [.str, texts])]
    none

/-- The shape of a region in the host table. -/
def boundary : Hint :=
  .record "BoundaryTemplate" home
    [required "begin" .str, required "end" .str, required "begin_captures" captures,
      defaulted "end_captures" (.optional captures) .null]
    none

/-- A host of the host table, its name included. -/
def host : Hint :=
  .record "HostLanguageTemplate" home
    [required "name" .str, required "target_scopes" texts,
      required "basic_grammar_pattern" boundary, required "basic_grammar" boundary,
      defaulted "substitution_include" .str (.str defaultSubstitution),
      defaulted "string_scope" .str (.str defaultStringScope)]
    none

/-- Both tables. -/
def tables : Hint :=
  .record "Tables" home [required "languages" (.run language), required "hosts" (.run host)] none

end Shape

/-- The text that a value is. -/
def Value.asText? : Value → Option Text
  | .str s => some s
  | _ => none

/-- The source that a coerced value stands for. -/
def Source.ofValue? : Value → Option Source
  | .str s => some (.one s)
  | .tuple items => (items.mapM Value.asText?).map .many
  | _ => none

/-- The entry of coerced captures. -/
def Captures.entry? : Value × Value → Option (Int × Text)
  | (.int n, .str s) => some (n, s)
  | _ => none

/-- The language that a coerced record stands for. -/
def Language.ofValue? : Value → Option Language
  | .record _ [(_, .str name), (_, .tuple identifiers), (_, source)] => do
    let identifiers ← identifiers.mapM Value.asText?
    let source ← Source.ofValue? source
    return { name, identifiers, source }
  | _ => none

/-- The optional captures that a coerced value stands for. -/
def Captures.optional? : Value → Option (Option Captures)
  | .null => some none
  | .map entries => (entries.mapM Captures.entry?).map some
  | _ => none

/-- The region shape that a coerced record stands for. -/
def Boundary.ofValue? : Value → Option Boundary
  | .record _ [(_, .str opening), (_, .str closing), (_, .map captures), (_, closingCaptures)] => do
    let openingCaptures ← captures.mapM Captures.entry?
    let closingCaptures ← Captures.optional? closingCaptures
    return { opening, closing, openingCaptures, closingCaptures }
  | _ => none

/-- The host that a coerced record stands for. -/
def Host.ofValue? : Value → Option Host
  | .record _ [(_, .str name), (_, .tuple scopes), (_, tagged), (_, dispatch),
      (_, .str substitution), (_, .str stringScope)] => do
    let targetScopes ← scopes.mapM Value.asText?
    let tagged ← Boundary.ofValue? tagged
    let dispatch ← Boundary.ofValue? dispatch
    return { name, targetScopes, tagged, dispatch, substitution, stringScope }
  | _ => none

end TaggedGrammar
