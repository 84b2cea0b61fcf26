import ResourceFlow.Cluster.Node
import ResourceFlow.Text.Quoted
/-! # Node filters

  A filter picks the target nodes of an operation. A set of override nodes, if
  there is one and it is not empty, is the answer as it stands. Otherwise a
  node passes when no excluded entry names it, and, for each of the two
  criteria that is not empty, an included entry names it and its host group is
  included.
-/

namespace ResourceFlow

/-- Criteria for target nodes. -/
structure NodeFilter where
  /-- Host names or addresses to keep; empty keeps all. -/
  includeHosts : List String := []
  /-- Host names or addresses to drop. -/
  excludeHosts : List String := []
  /-- Host groups to keep; empty keeps all. -/
  includeHostGroups : List String := []
  /-- The target nodes themselves, when there are any. -/
  overrideNodes : Option (List Node) := none
  deriving DecidableEq, Inhabited

namespace NodeFilter

/-- The override nodes, unless there are none of them. -/
def override? (f : NodeFilter) : Option (List Node) :=
  match f.overrideNodes with
  | some (n :: rest) => some (n :: rest)
  | _ => none

/-- Whether the filter has no criteria at all. -/
def isEmpty (f : NodeFilter) : Bool :=
  f.includeHosts.isEmpty && f.excludeHosts.isEmpty && f.includeHostGroups.isEmpty &&
    f.override?.isNone

/-- Whether a node meets the criteria, the override nodes aside. -/
def accepts (f : NodeFilter) (n : Node) : Bool :=
  !n.isNamedIn f.excludeHosts && (f.includeHosts.isEmpty || n.isNamedIn f.includeHosts) &&
    (f.includeHostGroups.isEmpty || f.includeHostGroups.contains n.hostGroup)

/-- The target nodes among the candidates. -/
def apply (f : NodeFilter) (candidates : List Node) : List Node :=
  match f.override? with
  | some nodes => nodes
  | none => candidates.filter f.accepts

/-- The text of a filter: the override hosts, or the three criteria. -/
def text (f : NodeFilter) : String :=
  match f.override? with
  | some nodes =>
    "override=" ++ Text.quotedList (sortTexts ((distinctItems nodes).map Node.hostname))
  | none =>
    "hosts=" ++ Text.quotedList (textSet f.includeHosts) ++
      " host_groups=" ++ Text.quotedList (textSet f.includeHostGroups) ++
      " exclude_hosts=" ++ Text.quotedList (textSet f.excludeHosts)

end NodeFilter

instance : Codec NodeFilter where
  encode f := .obj [
    ("include_hosts", Codec.encodeTexts f.includeHosts),
    ("exclude_hosts", Codec.encodeTexts f.excludeHosts),
    ("include_host_groups", Codec.encodeTexts f.includeHostGroups),
    ("override_nodes", Codec.encode (f.overrideNodes.map Node.setOf))]
  decode? j := do
    let fields ← Codec.record?
      ["include_hosts", "exclude_hosts", "include_host_groups", "override_nodes"] j
    return { includeHosts := ← Codec.requiredTexts? fields "include_hosts"
             excludeHosts := ← Codec.requiredTexts? fields "exclude_hosts"
             includeHostGroups := ← Codec.requiredTexts? fields "include_host_groups"
             overrideNodes := (← Codec.optional? fields "override_nodes").map Node.setOf }

end ResourceFlow
