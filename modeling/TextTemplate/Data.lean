import TextTemplate.Table
import TextTemplate.Number.Shortest
import TextTemplate.Text.Blank

/-!
The values that templates work on.

A value is nil, a scalar, an array, a hash or a drop. A drop is a handle to an object outside the
data, which answers one key at a time (see `TextTemplate.Drop`). The functions here look at no
drop: they give the text of a value and its forms as a number or a string.
-/

namespace TextTemplate

/-- The place of a drop in a store of drops. -/
structure DropId where
  index : Nat
deriving DecidableEq, Repr

/-- A value. -/
inductive Data
  | nil
  | bool (b : Bool)
  | int (n : Int64)
  | float (x : Float)
  | string (text : String)
  | array (items : List Data)
  | hash (entries : Table Data)
  | drop (id : DropId)

namespace Data

instance : Inhabited Data := ⟨nil⟩

/-- A count as a value; the largest integer stands for all larger counts. -/
def ofNat (n : Nat) : Data :=
  int (Number.ofNat n)

/-- What messages call the type of a value. -/
def typeName : Data → String
  | nil => "nil"
  | bool _ => "bool"
  | int _ => "int"
  | float _ => "float"
  | string _ => "string"
  | array _ => "array"
  | hash _ => "hash"
  | drop _ => "drop"

def isNil : Data → Bool
  | nil => true
  | _ => false

/-- Only the value true is true. -/
def toBool : Data → Bool
  | bool b => b
  | _ => false

/-- All values but nil and false are truthy, empty and zero ones too. -/
def isTruthy : Data → Bool
  | nil | bool false => false
  | _ => true

def hash? : Data → Option (Table Data)
  | hash entries => some entries
  | _ => none

def array? : Data → Option (List Data)
  | array items => some items
  | _ => none

def string? : Data → Option String
  | string text => some text
  | _ => none

mutual

/-- The text that a value adds to a template's output. Nil, hashes and drops add nothing; an array
adds the texts of its items. -/
def display : Data → String
  | nil | hash _ | drop _ => ""
  | bool b => if b then "true" else "false"
  | int n => Number.decimal n
  | float x => Number.floatText x
  | string text => text
  | array items => displayAll items

/-- The texts of the items, one after the other. -/
def displayAll : List Data → String
  | [] => ""
  | item :: items => item.display ++ displayAll items

end

/-- The text of a scalar. Arrays, hashes and drops have none. -/
def coerceString? : Data → Option String
  | array _ | hash _ | drop _ => none
  | scalar => some scalar.display

/-- A value as an integer: an integer itself, a finite float or the number that a string writes
between blanks, cut to its integer part and to the range of integers. -/
def toInteger? : Data → Option Int64
  | int n => some n
  | float x => if x.isFinite then some x.toInt64 else none
  | string text =>
    let cs := Text.trim text.toList
    match Number.read? cs with
    | some n => some n
    | none =>
      match Number.readFloat? cs with
      | some x => if x.isFinite then some x.toInt64 else none
      | none => none
  | _ => none

/-- A value as a float: a number itself, or the number that a string writes between blanks. -/
def toFloat? : Data → Option Float
  | int n => some n.toFloat
  | float x => some x
  | string text => Number.readFloat? (Text.trim text.toList)
  | _ => none

/-- How two values are ordered, if they are. Numbers are compared as numbers and strings by code
points; nothing else has an order, and neither has a float that is no number. -/
def compare? : Data → Data → Option Ordering
  | int m, int n => some (compare m.toInt n.toInt)
  | int m, float y => compareFloats? m.toFloat y
  | float x, int n => compareFloats? x n.toFloat
  | float x, float y => compareFloats? x y
  | string s, string t => some (if s < t then .lt else if s = t then .eq else .gt)
  | _, _ => none
where
  /-- The order of two floats. -/
  compareFloats? (x y : Float) : Option Ordering :=
    if x < y then some .lt else if x == y then some .eq else if y < x then some .gt else none

/-- The item at `index`; nil if there is none or the value is no array. -/
def itemAt (data : Data) (index : Int) : Data :=
  match data with
  | array items => if index < 0 then nil else items.getD index.toNat nil
  | _ => nil

/-- The hash with a new entry. Fails if the key is there, and for a value that is no hash. -/
def insert (data : Data) (key : String) (value : Data) : Except ValueError Data :=
  match data with
  | hash entries =>
    match entries.insert key value with
    | .ok entries => .ok (hash entries)
    | .error error => .error error
  | other => .error (.notHash other.typeName)

/-- The hash with `value` bound to `key`. Fails for a value that is no hash. -/
def set (data : Data) (key : String) (value : Data) : Except ValueError Data :=
  match data with
  | hash entries => .ok (hash (entries.set key value))
  | other => .error (.notHash other.typeName)

/-- The hash without an entry for `key`. Other values stay as they are. -/
def erase (data : Data) (key : String) : Data :=
  match data with
  | hash entries => hash (entries.erase key)
  | other => other

/-- What a hash binds `key` to; none for other values. -/
def binding? (data : Data) (key : String) : Option Data :=
  match data with
  | hash entries => entries.get? key
  | _ => none

end Data

end TextTemplate
