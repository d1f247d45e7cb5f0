import Circulation.Json

/-!
# Layers of settings

Settings come in layers, each a table of sections with values. A layer is laid over the earlier ones field by field: a
value replaces the value under its name, a table is merged into the table there. Names are kept in small letters, so
that they match in any spelling. The names at the top of a layer may be paths, with points before the names of fields
and the positions of items in brackets.
-/

namespace Circulation.Layer

/-- Puts a field into a table, in place of the field of its name or after the others. -/
def putField (name : String) (value : Json) : List (String × Json) → List (String × Json)
  | [] => [(name, value)]
  | (k, v) :: fields => if k = name then (k, value) :: fields else (k, v) :: putField name value fields

/-- The fields of a table; anything else counts as an empty one. -/
def fieldsOf : Json → List (String × Json)
  | .obj fields => fields
  | _ => []

/-- The items of a list; anything else counts as an empty one. -/
def itemsOf : Json → List Json
  | .arr items => items
  | _ => []

mutual

/-- Lays a value over what a table has under a name. -/
def lay (table : Json) (name : String) : Json → Json
  | .obj incoming =>
    let fields := fieldsOf table
    .obj (putField name.toLower (layAll ((fields.lookup name.toLower).getD (.obj [])) incoming) fields)
  | value => .obj (putField name.toLower value (fieldsOf table))

/-- Lays the fields of a table over another. -/
def layAll (table : Json) : List (String × Json) → Json
  | [] => table
  | (name, value) :: incoming => layAll (lay table name value) incoming

end

/-- A step of a path: to the field of a name, or to the item at a position, counted from the end if it is negative. -/
inductive Step where
  | field (name : String)
  | item (position : Int)
  deriving DecidableEq, Repr

/-- The place of a position in a list of some length, if it is not before the start. -/
def placeOf? (position : Int) (length : Nat) : Option Nat :=
  if 0 ≤ position then some position.toNat
  else if position.natAbs ≤ length then some (length - position.natAbs)
  else none

/-- Puts an item at a place of a list, which is filled up with nulls if it is too short. -/
def putItem (place : Nat) (value : Json) (items : List Json) : List Json :=
  (items ++ List.replicate (place + 1 - items.length) Json.null).set place value

/-- Lays a value over what is at the end of a path. What stands in the way of the path gives way to tables and lists. -/
def layAt? (value : Json) : List Step → Json → Option Json
  | [], _ => some value
  | [.field name], table => some (lay table name value)
  | .field name :: path, table => do
    let fields := fieldsOf table
    let below ← layAt? value path ((fields.lookup name.toLower).getD .null)
    return .obj (putField name.toLower below fields)
  | .item position :: path, list => do
    let items := itemsOf list
    let place ← placeOf? position items.length
    return .arr (putItem place (← layAt? value path (items[place]?.getD .null)) items)

/-- Whether a character may stand in a name of a path. -/
def isNameChar (c : Char) : Bool :=
  c.isAlphanum || c = ' ' || c = '_' || c = '-'

/-- A position as it is written between brackets: a number of 64 bits with blanks around it. -/
def position? (cs : List Char) : Option Int :=
  let isGap (c : Char) : Bool := c = ' ' || c = '\t'
  let (negative, cs) := match cs.dropWhile isGap with
    | '-' :: cs => (true, cs)
    | cs => (false, cs)
  let (run, rest) := Scan.digits cs
  let n : Int := Decimal.signed negative (Scan.valueOf run)
  if run.isEmpty ∨ !rest.all isGap ∨ n < -2 ^ 63 ∨ 2 ^ 63 ≤ n then none else some n

/-- Whether a character stands before the closing bracket. -/
def isInner (c : Char) : Bool :=
  c != ']'

/-- The steps after the first name of a path. -/
def steps? (cs : List Char) : Option (List Step) :=
  match cs with
  | [] => some []
  | '.' :: cs =>
    let name := cs.takeWhile isNameChar
    if name.isEmpty then none
    else (steps? (cs.dropWhile isNameChar)).map (.field (String.ofList name) :: ·)
  | '[' :: cs =>
    match position? (cs.takeWhile isInner) with
    | some position =>
      if cs.contains ']' then (steps? ((cs.dropWhile isInner).drop 1)).map (.item position :: ·) else none
    | none => none
  | _ => none
termination_by cs.length
decreasing_by
  · have := (List.dropWhile_sublist isNameChar : (cs.dropWhile isNameChar).Sublist cs).length_le
    simp only [List.length_cons]
    omega
  · have := (List.dropWhile_sublist isInner : (cs.dropWhile isInner).Sublist cs).length_le
    simp only [List.length_cons, List.length_drop]
    omega

/-- The path that a name writes, or the name itself where it writes none. -/
def pathOf (name : String) : List Step :=
  let first := name.toList.takeWhile isNameChar
  match steps? (name.toList.dropWhile isNameChar) with
  | some path => if first.isEmpty then [.field name] else .field (String.ofList first) :: path
  | none => [.field name]

/-- Lays a layer over another; it fails where a path counts back beyond the start of a list. -/
def layOver? (base : Json) (layer : List (String × Json)) : Option Json :=
  layer.foldlM (fun table (name, value) => layAt? value (pathOf name) table) base

end Circulation.Layer
