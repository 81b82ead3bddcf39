import ClassWiki.Tree.Node

/-!
# Listings

A tree is handed over as a list of its nodes, each in front of its descendants and
with the number of its children.
-/

namespace ClassWiki

structure Listed where
  kind : Text
  named : Bool
  label? : Option Text
  start : Nat
  stop : Nat
  arity : Nat
  deriving DecidableEq, Repr

structure Parsed where
  root : Node
  recovered : Bool
  deriving Repr

namespace Node

/-- Read the trees of a listing.  Each node takes as many of the trees that follow it
as it has children. -/
def forest : List Listed → List Node
  | [] => []
  | entry :: entries =>
      let trees := forest entries
      ⟨entry.kind, entry.named, entry.label?, entry.start, entry.stop,
        trees.take entry.arity⟩ :: trees.drop entry.arity

def ofListing? (entries : List Listed) : Option Node := (forest entries).head?

/-! ## Writing a listing -/

mutual

def listing : Node → List Listed
  | ⟨kind, named, label?, start, stop, children⟩ =>
      ⟨kind, named, label?, start, stop, children.length⟩ :: forestListing children

def forestListing : List Node → List Listed
  | [] => []
  | node :: nodes => node.listing ++ forestListing nodes

end

mutual

theorem forest_listing_append (node : Node) (rest : List Listed) :
    forest (node.listing ++ rest) = node :: forest rest := by
  cases node with
  | mk kind named label? start stop children =>
      simp [listing, forest, forest_forestListing_append children rest]

theorem forest_forestListing_append (nodes : List Node) (rest : List Listed) :
    forest (forestListing nodes ++ rest) = nodes ++ forest rest := by
  cases nodes with
  | nil => simp [forestListing]
  | cons node nodes =>
      simp [forestListing, forest_listing_append node,
        forest_forestListing_append nodes rest]

end

theorem ofListing?_listing (node : Node) : ofListing? node.listing = some node := by
  simpa [ofListing?, forest] using congrArg List.head? (forest_listing_append node [])

end Node

end ClassWiki
