import TaggedGrammar.Hint.Instance
import TaggedGrammar.Outcome

/-!
# Coercion

Coercion brings a dynamic value into the shape that a hint expects: lists become fixed sequences where
the hint says so, mappings become records, and integers doubles. All else is kept as it is. A value
that does not fit is refused with the place at which it does not fit.
-/

namespace TaggedGrammar

namespace Hint

/-- A place of a table. -/
abbrev Place := List Text

/-- Coerces the items of a list one after the other, each at its index. -/
def eachItem (f : Value → Place → Outcome Value) (path : Place) :
    (index : Nat) → List Value → Outcome (List Value)
  | _, [] => .ok []
  | i, v :: rest => do
    let x ← f v (path ++ [Text.ofNat i])
    let xs ← eachItem f path (i + 1) rest
    return x :: xs

/-- Coerces the entries of a mapping one after the other and writes them into `done`. The step to a
value is the text of its coerced key. -/
def eachEntry (key value : Value → Place → Outcome Value) (path : Place)
    (done : List (Value × Value)) : List (Value × Value) → Outcome (List (Value × Value))
  | [] => .ok done
  | (k, v) :: rest => do
    let k' ← key k (path ++ [Text.ofString "<key>"])
    let step ← Outcome.ofOption .tooManyDigits k'.text?
    let v' ← value v (path ++ [step])
    eachEntry key value path (Value.put k' v' done) rest

/-- Coerces to a simple kind. -/
def coerceScalar (cls : Class) (v : Value) (path : Place) : Outcome Value :=
  match cls, v with
  | .bool, .bool _ => .ok v
  | _, .bool _ => .fail (.inTable path (.expected cls.name "bool"))
  | .float, .int n => (Outcome.ofOption .beyondDouble (Double.ofInt? n)).andThen (.ok ∘ Value.float)
  | _, _ => if cls.holds v then .ok v else .fail (.inTable path (.expected cls.name v.kind))

/-- Accepts the instances of a class. -/
def coerceInstance (cls : Class) (v : Value) (path : Place) : Outcome Value :=
  if cls.holds v then .ok v else .fail (.inTable path (.notInstance v.kind cls.name))

/-- Accepts the values that are the same as one of the options. -/
def coerceLiteral (options : List Value) (v : Value) (path : Place) : Outcome Value :=
  if options.any fun o => o.same v then .ok v
  else
    match (Value.tuple options).literal?, v.literal? with
    | some os, some s => .fail (.inTable path (.notAnOption os s))
    | _, _ => .fail .tooManyDigits

/-- The keys of a mapping that are not among the declared names. -/
def extraKeys (declared : List Text) (entries : List (Value × Value)) : List Value :=
  (entries.map Prod.fst).filter fun k => !declared.any fun name => k.same (.str name)

/-- Refuses keys other than the declared ones; they are listed by their texts in order. -/
def checkKeys (declared : List Text) (entries : List (Value × Value)) (path : Place) :
    Outcome Unit :=
  match extraKeys declared entries with
  | [] => .ok ()
  | extra =>
    match extra.mapM Value.text? with
    | none => .fail .tooManyDigits
    | some texts => .fail (.inTable path (.unexpectedKeys (texts.mergeSort Text.le)))

/-- Whether a hint is the class of null alone. -/
def isNull : Hint → Bool
  | instanceOf .null => true
  | _ => false

mutual

/-- Brings a value into the shape that a hint expects. -/
def coerce : Hint → Value → Place → Outcome Value
  | any, v, _ | unchecked _, v, _ => .ok v
  | scalar cls, v, path => coerceScalar cls v path
  | instanceOf cls, v, path => coerceInstance cls v path
  | literal options, v, path => coerceLiteral options v path
  | anyList, v, path =>
    match v with
    | .list _ => .ok v
    | _ => .fail (.inTable path (.expected "list" v.kind))
  | anyDict, v, path =>
    match v with
    | .map entries | .ordered entries =>
      (eachEntry (fun k _ => .ok k) (fun x _ => .ok x) path [] entries).andThen (.ok ∘ Value.map)
    | _ => .fail (.inTable path (.expected "mapping" v.kind))
  | anyTuple, v, path =>
    match v with
    | .list items | .tuple items => .ok (.tuple items)
    | _ => .fail (.inTable path (.expected "list" v.kind))
  | list item, v, path =>
    match v with
    | .list items => (eachItem (fun x p => coerce item x p) path 0 items).andThen (.ok ∘ Value.list)
    | _ => .fail (.inTable path (.expected "list" v.kind))
  | dict key value, v, path =>
    match v with
    | .map entries | .ordered entries =>
      (eachEntry (fun k p => coerce key k p) (fun x p => coerce value x p) path [] entries).andThen
        (.ok ∘ Value.map)
    | _ => .fail (.inTable path (.expected "mapping" v.kind))
  | tuple hints, v, path =>
    match v with
    | .list items | .tuple items =>
      if hints.isEmpty then .ok (.tuple items)
      else if hints.length ≠ items.length then
        .fail (.inTable path (.wrongLength hints.length items.length))
      else (coerceEach hints items path 0).andThen (.ok ∘ Value.tuple)
    | _ => .fail (.inTable path (.expected "list" v.kind))
  | run item, v, path =>
    match v with
    | .list items | .tuple items =>
      (eachItem (fun x p => coerce item x p) path 0 items).andThen (.ok ∘ Value.tuple)
    | _ => .fail (.inTable path (.expected "list" v.kind))
  | union _ members, v, path =>
    match v with
    | .null =>
      if members.any isNull then .ok .null else coerceFirst members v path []
    | _ => coerceFirst members v path []
  | record name _ fields refusal, v, path =>
    match v with
    | .map entries | .ordered entries => do
      checkKeys (fields.map fun f => f.name) entries path
      let values ← coerceFields fields entries path
      Outcome.note (.built name path)
      match refusal with
      | none => .ok (.record name values)
      | some reason => .fail (.refused reason)
    | _ => .fail (.inTable path (.expectedRecord name v.kind))

/-- Brings each item into the shape of its hint. -/
def coerceEach : List Hint → List Value → Place → (index : Nat) → Outcome (List Value)
  | h :: hs, v :: vs, path, i => do
    let x ← coerce h v (path ++ [Text.ofNat i])
    let xs ← coerceEach hs vs path (i + 1)
    return x :: xs
  | _, _, _, _ => .ok []

/-- Tries the members of a choice in order, null apart. The messages of those that refused the value are
collected; a fault that is not one of the table ends the search. -/
def coerceFirst : List Hint → Value → Place → (refusals : List Text) → Outcome Value
  | [], _, path, [] => .fail (.inTable path .noAlternatives)
  | [], _, _, refusals => .fail (.inTable [] (.refusedByAll refusals))
  | h :: hs, v, path, refusals =>
    if isNull h then coerceFirst hs v path refusals
    else
      let tried := coerce h v path
      match tried.result with
      | .error (.table e) => (coerceFirst hs v path (refusals ++ [e.message])).after tried.notices
      | _ => tried

/-- The values of a record's fields, in declared order. A field that tables may not set has its default,
if it has one. -/
def coerceFields :
    List (Field Hint) → List (Value × Value) → Place → Outcome (List (String × Value))
  | [], _, _ => .ok []
  | ⟨name, hint, default, init⟩ :: rest, entries, path => do
    let here ← match init, Value.field? name entries, default with
      | true, some v, _ => do
        let x ← coerce hint v (path ++ [Text.ofString name])
        Outcome.ok [(name, x)]
      | true, none, none => .fail (.inTable (path ++ [Text.ofString name]) .missingField)
      | _, _, some d => .ok [(name, d)]
      | false, _, none => .ok []
    let others ← coerceFields rest entries path
    return here ++ others

end

/-- Accepts the instances of a hint that is no record. -/
def testInstance (hint : Hint) (v : Value) (path : Place) : Outcome Value :=
  match hint.isInstance v with
  | .error reason => .fail (.refused reason)
  | .ok true => .ok v
  | .ok false => .fail (.inTable path (.notInstance v.kind hint.builtName))

/-- Builds what a hint names: a record from a mapping, or an instance of a class as it is. Every fault is
reported as one of the table at the given place. -/
def build (hint : Hint) (v : Value) (path : Place) : Outcome Value :=
  let built := match hint with
    | record .. => coerce hint v path
    | _ => testInstance hint v path
  built.mapFault fun
    | .table e => .table e
    | f => .inTable path (.buildFailed hint.builtName f.message)

end Hint

end TaggedGrammar
