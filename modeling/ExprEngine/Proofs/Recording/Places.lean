import ExprEngine.Proofs.Attribution.Failures
import Mathlib.Data.List.Nodup

/-!
# Nodes and their places

Selections and index operations take their operands in, and with a conditional its branches. What
is taken in becomes part of a reference and loses its wrapper. A place is a node together with
the loops around it and whether it is taken in.
-/

namespace ExprEngine

namespace Expr

mutual

/-- The nodes of an expression; the entries of maps and objects are none. -/
def nodes : Expr → List Expr
  | literal id v => [literal id v]
  | ident id name => [ident id name]
  | select id operand field => select id operand field :: nodes operand
  | presence id operand field => presence id operand field :: nodes operand
  | call id function args => call id function args :: nodesAll args
  | member id target function args =>
    member id target function args :: (nodes target ++ nodesAll args)
  | list id elements => list id elements :: nodesAll elements
  | mapping id entries => mapping id entries :: nodesIn entries
  | object id name entries => object id name entries :: nodesIn entries
  | loop id iterVar range accuVar init condition step result =>
    loop id iterVar range accuVar init condition step result ::
      (nodes range ++ (nodes init ++ (nodes condition ++ (nodes step ++ nodes result))))
termination_by structural e => e

def nodesAll : List Expr → List Expr
  | [] => []
  | e :: rest => nodes e ++ nodesAll rest
termination_by structural es => es

def nodesIn : List Entry → List Expr
  | [] => []
  | .field _ _ value :: rest => nodes value ++ nodesIn rest
  | .keyed _ key value :: rest => nodes key ++ (nodes value ++ nodesIn rest)
termination_by structural entries => entries

end

mutual

theorem map_id_nodes (e : Expr) : e.nodes.map id = e.nodeIds := by
  match e with
  | literal .. | ident .. => rfl
  | select id operand _ | presence id operand _ =>
    rw [nodes, nodeIds, List.map_cons, map_id_nodes operand, Expr.id]
  | call id _ parts | list id parts =>
    rw [nodes, nodeIds, List.map_cons, map_id_nodesAll parts, Expr.id]
  | member id target _ args =>
    rw [nodes, nodeIds, List.map_cons, List.map_append, map_id_nodes target,
      map_id_nodesAll args, Expr.id]
  | mapping id entries | object id _ entries =>
    rw [nodes, nodeIds, List.map_cons, map_id_nodesIn entries, Expr.id]
  | loop id _ range _ init condition step result =>
    simp only [nodes, nodeIds, List.map_cons, List.map_append, map_id_nodes range,
      map_id_nodes init, map_id_nodes condition, map_id_nodes step, map_id_nodes result, Expr.id]

theorem map_id_nodesAll (es : List Expr) : (nodesAll es).map id = nodeIdsAll es := by
  match es with
  | [] => rfl
  | e :: rest => rw [nodesAll, nodeIdsAll, List.map_append, map_id_nodes e, map_id_nodesAll rest]

theorem map_id_nodesIn (entries : List Entry) : (nodesIn entries).map id = nodeIdsIn entries := by
  match entries with
  | [] => rfl
  | .field _ _ value :: rest =>
    rw [nodesIn, nodeIdsIn, List.map_append, map_id_nodes value, map_id_nodesIn rest]
  | .keyed _ key value :: rest =>
    rw [nodesIn, nodeIdsIn, List.map_append, List.map_append, map_id_nodes key,
      map_id_nodes value, map_id_nodesIn rest]

end

theorem node_unique {e m n : Expr} (distinct : e.nodeIds.Nodup) (left : m ∈ e.nodes)
    (right : n ∈ e.nodes) (same : m.id = n.id) : m = n := by
  rw [← map_id_nodes] at distinct
  exact List.inj_on_of_nodup_map distinct left right same

def isLoop : Expr → Bool
  | loop .. => true
  | _ => false

end Expr

structure Place where
  node : Expr
  /-- The variables of the loops around the node. -/
  locals : List String
  /-- Whether a selection takes the node in. -/
  taken : Bool

namespace Planner

/-- Which arguments of a call are taken in, where the call itself is or is not. -/
def takes (function : String) (taken : Bool) : List Bool :=
  if function = Operator.index then [true, false]
  else if function = Operator.conditional then [false, taken, taken]
  else []

mutual

def places (c : Planner) : Expr → List String → Bool → List Place
  | .literal id v, locals, taken => [⟨.literal id v, locals, taken⟩]
  | .ident id name, locals, taken => [⟨.ident id name, locals, taken⟩]
  | .select id operand field, locals, taken =>
    ⟨.select id operand field, locals, taken⟩ :: places c operand locals (!c.isResolved id)
  | .presence id operand field, locals, taken =>
    ⟨.presence id operand field, locals, taken⟩ :: places c operand locals false
  | .call id function args, locals, taken =>
    ⟨.call id function args, locals, taken⟩ :: placesAll c args locals (takes function taken)
  | .member id target function args, locals, taken =>
    ⟨.member id target function args, locals, taken⟩ ::
      (places c target locals false ++ placesAll c args locals [])
  | .list id elements, locals, taken =>
    ⟨.list id elements, locals, taken⟩ :: placesAll c elements locals []
  | .mapping id entries, locals, taken =>
    ⟨.mapping id entries, locals, taken⟩ :: placesIn c entries locals
  | .object id name entries, locals, taken =>
    ⟨.object id name entries, locals, taken⟩ :: placesIn c entries locals
  | .loop id iterVar range accuVar init condition step result, locals, taken =>
    ⟨.loop id iterVar range accuVar init condition step result, locals, taken⟩ ::
      (places c range locals false ++ (places c init locals false ++
        (places c condition (iterVar :: accuVar :: locals) false ++
          (places c step (iterVar :: accuVar :: locals) false ++
            places c result (accuVar :: locals) false))))
termination_by structural e => e

/-- The places in arguments; those that no flag is left for are not taken in. -/
def placesAll (c : Planner) : List Expr → List String → List Bool → List Place
  | [], _, _ => []
  | e :: rest, locals, flags =>
    places c e locals (flags.headD false) ++ placesAll c rest locals flags.tail
termination_by structural es => es

def placesIn (c : Planner) : List Entry → List String → List Place
  | [], _ => []
  | .field _ _ value :: rest, locals => places c value locals false ++ placesIn c rest locals
  | .keyed _ key value :: rest, locals =>
    places c key locals false ++ (places c value locals false ++ placesIn c rest locals)
termination_by structural entries => entries

end

/-- The nodes of an expression that selections in it take in. -/
def takenIn (c : Planner) (e : Expr) : List Expr :=
  ((c.places e [] false).filter Place.taken).map Place.node

variable (c : Planner)

mutual

theorem map_node_places (e : Expr) (locals : List String) (taken : Bool) :
    (c.places e locals taken).map Place.node = e.nodes := by
  match e with
  | .literal .. | .ident .. => rfl
  | .select _ operand _ | .presence _ operand _ =>
    rw [places, Expr.nodes, List.map_cons, map_node_places operand]
  | .call _ _ parts | .list _ parts =>
    rw [places, Expr.nodes, List.map_cons, map_node_placesAll parts]
  | .member _ target _ args =>
    rw [places, Expr.nodes, List.map_cons, List.map_append, map_node_places target,
      map_node_placesAll args]
  | .mapping _ entries | .object _ _ entries =>
    rw [places, Expr.nodes, List.map_cons, map_node_placesIn entries]
  | .loop _ _ range _ init condition step result =>
    simp only [places, Expr.nodes, List.map_cons, List.map_append, map_node_places range,
      map_node_places init, map_node_places condition, map_node_places step,
      map_node_places result]

theorem map_node_placesAll (es : List Expr) (locals : List String) (flags : List Bool) :
    (c.placesAll es locals flags).map Place.node = Expr.nodesAll es := by
  match es with
  | [] => rfl
  | e :: rest =>
    rw [placesAll, Expr.nodesAll, List.map_append, map_node_places e, map_node_placesAll rest]

theorem map_node_placesIn (entries : List Entry) (locals : List String) :
    (c.placesIn entries locals).map Place.node = Expr.nodesIn entries := by
  match entries with
  | [] => rfl
  | .field _ _ value :: rest =>
    rw [placesIn, Expr.nodesIn, List.map_append, map_node_places value, map_node_placesIn rest]
  | .keyed _ key value :: rest =>
    rw [placesIn, Expr.nodesIn, List.map_append, List.map_append, map_node_places key,
      map_node_places value, map_node_placesIn rest]

end

theorem node_mem_of_place {e : Expr} {locals : List String} {taken : Bool} {x : Place}
    (member : x ∈ c.places e locals taken) : x.node ∈ e.nodes := by
  rw [← c.map_node_places e locals taken]
  exact List.mem_map_of_mem member

/-- Where ids are distinct, the id of a node tells whether it is taken in. -/
theorem taken_unique {e : Expr} (distinct : e.nodeIds.Nodup) {x : Place}
    (member : x ∈ c.places e [] false) (kept : x.taken = false) :
    x.node.id ∉ (c.takenIn e).map Expr.id := by
  intro listed
  obtain ⟨n, taken, same⟩ := List.mem_map.mp listed
  obtain ⟨y, inside, rfl⟩ := List.mem_map.mp taken
  obtain ⟨inside, isTaken⟩ := List.mem_filter.mp inside
  rw [← Expr.map_id_nodes, ← c.map_node_places e [] false, List.map_map] at distinct
  obtain rfl := List.inj_on_of_nodup_map distinct inside member same
  rw [kept] at isTaken
  cases isTaken

end Planner

end ExprEngine
