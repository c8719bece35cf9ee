import SqlInventory.Json.Basic
import SqlInventory.Perl.Source

/-!
# Trees as JSON

A grammar that runs elsewhere hands over its trees as JSON: a node is an array of its rule, its two
offsets and, if there are any, the nodes below it; a tree is an object with the root and a mark for
errors.
-/

namespace SqlInventory.Perl

mutual

/-- The node that a value describes. -/
def Node.ofJson? : Json → Option Node
  | .array [.string rule, .integer start, .integer stop] =>
    some (.mk rule start.toNat stop.toNat [])
  | .array [.string rule, .integer start, .integer stop, .array children] =>
    (Node.allOfJson? children).map (.mk rule start.toNat stop.toNat)
  | _ => none

/-- The nodes that some values describe. -/
def Node.allOfJson? : List Json → Option (List Node)
  | [] => some []
  | value :: rest =>
    match Node.ofJson? value, Node.allOfJson? rest with
    | some node, some nodes => some (node :: nodes)
    | _, _ => none

end

/-- The tree that a value describes. -/
def Tree.ofJson? (value : Json) : Option Tree :=
  ((value.member? "root").bind Node.ofJson?).map fun root =>
    { root, hasError := (value.member? "has_error").any Json.isTruthy }

end SqlInventory.Perl
