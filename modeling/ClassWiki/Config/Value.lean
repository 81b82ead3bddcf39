import ClassWiki.Config.Scalar

/-!
# Configuration values

What a configuration document holds: scalars, lists, maps from scalars to values, sets of
scalars, and the pairs that ordered maps are lists of.  A map keeps its entries in the
order in which their keys came first.
-/

namespace ClassWiki

inductive Value where
  | scalar (value : Scalar)
  | list (items : List Value)
  | map (entries : List (Scalar × Value))
  | set (items : List Scalar)
  | pair (first second : Value)
  deriving Repr

abbrev Mapping := List (Scalar × Value)

namespace Mapping

def get? (entries : Mapping) (key : Scalar) : Option Value :=
  (entries.find? fun entry => entry.1.same key).map Prod.snd

/-- An entry whose key is there already keeps its place and its key. -/
def set (key : Scalar) (value : Value) : Mapping → Mapping
  | [] => [(key, value)]
  | (other, old) :: entries =>
      if other.same key then (other, value) :: entries
      else (other, old) :: set key value entries

def update (entries more : Mapping) : Mapping :=
  more.foldl (fun done (key, value) => set key value done) entries

def ofList (entries : List (Scalar × Value)) : Mapping := update [] entries

end Mapping

namespace Value

def null : Value := .scalar .null

def text (value : Text) : Value := .scalar (.text value)

def bool (value : Bool) : Value := .scalar (.bool value)

def truthy : Value → Bool
  | .scalar value => value.truthy
  | .list items => !items.isEmpty
  | .map entries => !entries.isEmpty
  | .set items => !items.isEmpty
  | .pair _ _ => true

def text? : Value → Option Text
  | .scalar (.text value) => some value
  | _ => none

def scalar? : Value → Option Scalar
  | .scalar value => some value
  | _ => none

end Value

end ClassWiki
