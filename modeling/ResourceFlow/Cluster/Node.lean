import ResourceFlow.Data.Codec
/-! # Nodes

  A node is one machine of a managed cluster. Sets of nodes are lists of which
  only the membership counts; they are reported in the order of hostname,
  private address, public address (an absent one first) and host group.
-/

namespace ResourceFlow

/-- One machine of a managed cluster. -/
structure Node where
  /-- The name of the machine. -/
  hostname : String
  /-- The address inside the cluster's network. -/
  privateIp : String
  /-- The address outside it, if it has one. -/
  publicIp : Option String := none
  /-- The group of machines that it belongs to. -/
  hostGroup : String
  deriving DecidableEq, Inhabited

namespace Node

/-- The text of a node. -/
def text (n : Node) : String := n.hostname ++ " (" ++ n.privateIp ++ ", " ++ n.hostGroup ++ ")"

/-- Whether a set of host names and addresses names the node. -/
def isNamedIn (n : Node) (hosts : List String) : Bool :=
  hosts.contains n.hostname || hosts.contains n.privateIp ||
    match n.publicIp with
    | some ip => hosts.contains ip
    | none => false

/-- The text by which nodes are told apart in order, part by part. -/
def sortKey (n : Node) : List String :=
  [n.hostname, n.privateIp] ++
    (match n.publicIp with
      | none => ["", ""]
      | some ip => ["+", ip]) ++ [n.hostGroup]

/-- Whether a list of texts does not come after another. -/
def keyLe : List String → List String → Bool
  | [], _ => true
  | _ :: _, [] => false
  | a :: as, b :: bs => if a = b then keyLe as bs else textLe a b

/-- The order in which nodes are reported. -/
def le (m n : Node) : Bool := keyLe m.sortKey n.sortKey

/-- The set of the nodes of a list, in order. -/
def setOf (l : List Node) : List Node := sortBy le (distinctItems l)

@[simp] theorem mem_setOf (n : Node) (l : List Node) : n ∈ setOf l ↔ n ∈ l := by
  simp [setOf]

end Node

instance : Codec Node where
  encode n := .obj [("hostname", .str n.hostname), ("private_ip", .str n.privateIp),
    ("public_ip", Codec.encode n.publicIp), ("host_group", .str n.hostGroup)]
  decode? j := do
    let fields ← Codec.record? ["hostname", "private_ip", "public_ip", "host_group"] j
    return { hostname := ← Codec.required? fields "hostname"
             privateIp := ← Codec.required? fields "private_ip"
             publicIp := ← Codec.optional? fields "public_ip"
             hostGroup := ← Codec.required? fields "host_group" }

end ResourceFlow
