import ClassWiki.Fault

/-!
# Kinds of declarations

The kinds that settings name.  The value is taken as a list in the loosest sense: a
text has its characters, a map its keys, a set its members, bytes their numbers.  Only
kinds of class-like declarations are accepted, and the others are reported in order.
-/

namespace ClassWiki.Settings

def elements? : Value → Option (List Value)
  | .list items => some items
  | .map entries => some (entries.map fun entry => .scalar entry.1)
  | .set items => some (items.map .scalar)
  | .pair first second => some [first, second]
  | .scalar (.text value) => some (value.map fun c => .text [c])
  | .scalar (.bytes value) => some (value.map fun b => .scalar (.int b.toNat))
  | .scalar _ => none

def elements (value : Value) : Except Fault (List Value) :=
  if value.truthy then
    match elements? value with
    | some items => .ok items
    | none => .error .wrongType
  else .ok []

def isClassLike (kind : Scalar) : Bool := classLikeKinds.any fun name => kind.same (.text name)

def comparable (scalars : List Scalar) : Bool :=
  match scalars with
  | [] => true
  | [_] => true
  | first :: rest => rest.all fun scalar => (first.key.lt? scalar.key).isSome

def sorted (scalars : List Scalar) : Except Fault (List Scalar) :=
  if comparable scalars then
    .ok (scalars.mergeSort fun first second => second.key.lt? first.key != some true)
  else .error .wrongType

def kindTexts (kinds : List Scalar) : List Text :=
  kinds.filterMap fun
    | .text kind => some kind
    | _ => none

def declarationKinds (settings : Value) : Except Fault (List Text) :=
  match settings with
  | .map entries => do
      let value := (Mapping.get? entries (.text "declaration_kinds")).getD .null
      let items ← elements value
      if items.isEmpty then .error .noKinds
      else
        match items.mapM Value.scalar? with
        | none => .error .wrongType
        | some kinds => do
            let unknown ← sorted ((Scalar.distinct kinds).filter (!isClassLike ·))
            if unknown.isEmpty then .ok (kindTexts kinds) else .error (.unknownKinds unknown)
  | _ => .error .notMap

theorem eq_map_of_declarationKinds {settings : Value} {kinds : List Text}
    (h : declarationKinds settings = .ok kinds) : ∃ entries, settings = .map entries := by
  cases settings with
  | map entries => exact ⟨entries, rfl⟩
  | scalar value => cases h
  | list items => cases h
  | set items => cases h
  | pair first second => cases h

end ClassWiki.Settings
