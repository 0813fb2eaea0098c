import TensorGraph.Proofs.Bare
import TensorGraph.Proofs.Sketch.Refinement

/-!
# How nodes are linked does not depend on what they carry

A graph has two halves: the ids and links of its nodes, which are left in the bare graph, and what
the nodes carry, which are its contents. Calls on nodes and links read and write the first half
alone, and all other calls leave it as it is. Two histories with the same calls on nodes and links
therefore stay together, whatever the calls in between do (`run_bare`). The other way round, calls
on links leave the contents as they are.
-/

namespace TensorGraph

/-! ## What nodes carry -/

/-- What an operator carries, without its slots. -/
structure Label where
  /-- The id under which the operator was created. -/
  id : OperatorId
  /-- Attributes and parameters. -/
  annotations : Annotations
  /-- What the operator does. -/
  name : String
deriving DecidableEq

/-- What an operator carries. -/
def Operator.label (p : Operator) : Label := ⟨p.id, p.annotations, p.name⟩

/-- What all nodes of a graph carry. -/
structure Contents where
  /-- What the variables carry. -/
  vars : SortedMap VariableId Profile
  /-- What the operators carry. -/
  ops : SortedMap OperatorId Label
deriving DecidableEq

/-- What the nodes of a graph carry. -/
def Graph.contents (g : Graph) : Contents := ⟨g.vars.map Variable.profile, g.ops.map Operator.label⟩

namespace Operator

variable (p : Operator) (role : Role) (slot : String) (v : VariableId)

@[simp]
theorem label_setSlot : (p.setSlot role slot v).label = p.label := by
  cases role <;> rfl

@[simp]
theorem label_clearSlot : (p.clearSlot role slot).label = p.label := by
  cases role <;> rfl

end Operator

/-- A graph in which an operator has other slots, but carries the same, has the same contents. -/
theorem Graph.contents_of_sketch {g g' : Graph} {o : OperatorId} {p p' : Operator}
    (hp : g.getOperator? o = some p) (h : g'.sketch = g.sketch.putOperator o p')
    (hlabel : p'.label = p.label) : g'.contents = g.contents := by
  have hvars : g'.vars.map Variable.profile = g.vars.map Variable.profile :=
    congrArg Sketch.vars h
  have hops : g'.ops = g.ops.insert o p' := congrArg Sketch.ops h
  have hkept : (g.ops.map Operator.label).get? o = some p.label := by
    rw [SortedMap.get?_map]
    exact congrArg (Option.map Operator.label) hp
  rw [contents, contents, hvars, hops, SortedMap.map_insert, hlabel, SortedMap.insert_of_get? hkept]

namespace Rules

variable {g : Graph} {role : Role} {o : OperatorId} {slot : String} {v old new : VariableId}

/-- Binding leaves the contents as they are. -/
theorem Bind.contents {out : Outcome Unit} (h : Bind g role o slot v out) :
    out.graph.contents = g.contents := by
  cases h with
  | bound hp hw hs hfree =>
    exact Graph.contents_of_sketch hp (Graph.sketch_bound hw) (Operator.label_setSlot ..)
  | _ => rfl

/-- Unbinding leaves the contents as they are. -/
theorem Unbind.contents {out : Outcome Unit} (h : Unbind g role o v out) :
    out.graph.contents = g.contents := by
  cases h with
  | noSlot hs => rfl
  | unbound hp hw hs =>
    rw [Outcome.graph_done, Graph.written_unbind _ hw]
    exact Graph.contents_of_sketch hp (Graph.sketch_unbound hw) (Operator.label_clearSlot ..)

/-- Rebinding an input leaves the contents as they are. -/
theorem RebindInput.contents {out : Outcome Unit} (h : RebindInput g o old new out) :
    out.graph.contents = g.contents := by
  cases h with
  | rebound hp hw hx hs hne =>
    rw [Outcome.graph_done, Graph.written_rebindWrites _ hw hne]
    exact Graph.contents_of_sketch hp (Graph.sketch_rebound hw hx hne) (Operator.label_setSlot ..)
  | _ => rfl

/-- Rebinding an output leaves the contents as they are. -/
theorem RebindOutput.contents {out : Outcome Unit} (h : RebindOutput g o old new out) :
    out.graph.contents = g.contents := by
  cases h with
  | rebound hp hw hx hs hne hfree =>
    rw [Outcome.graph_done, Graph.written_rebindWrites _ hw hne]
    exact Graph.contents_of_sketch hp (Graph.sketch_rebound hw hx hne) (Operator.label_setSlot ..)
  | _ => rfl

/-- Removing an operator takes away what it carries, and nothing else. -/
theorem RemoveOperator.contents {out : Outcome Operator} (h : RemoveOperator g o out) :
    out.graph.contents = { g.contents with ops := g.contents.ops.erase o } := by
  cases h with
  | noOperator hp =>
    have hnone : (g.ops.map Operator.label).get? o = none := by
      rw [SortedMap.get?_map]
      exact congrArg (Option.map Operator.label) hp
    rw [Outcome.graph_failed, Graph.contents, SortedMap.erase_of_get? hnone]
  | @removed p hp =>
    have hsketch := Graph.sketch_detached g o p
    have hvars := congrArg Sketch.vars hsketch
    have hops := congrArg Sketch.ops hsketch
    rw [Outcome.graph_done, Graph.written_detachWrites, Graph.contents, Graph.contents,
      ← SortedMap.map_erase]
    exact congrArg₂ Contents.mk hvars (congrArg (SortedMap.map Operator.label) hops)

/-- A call on links leaves the contents as they are. -/
theorem Performs.contents {c : Call} {out : Outcome Answer} (h : Performs g c out)
    (hc : c.isLinking = true) : out.graph.contents = g.contents := by
  obtain ⟨out', rfl, hrule⟩ := h.of_isLinking hc
  rw [Outcome.graph_map]
  rcases hrule with ⟨_, _, _, _, h⟩ | ⟨_, _, _, h⟩ | ⟨_, _, _, h⟩ | ⟨_, _, _, h⟩
  · exact h.contents
  · exact h.contents
  · exact h.contents
  · exact h.contents

end Rules

/-! ## Two histories -/

namespace Graph

variable {g g' : Graph} {c : Call}

/-- What a call on nodes and links leaves of its outcome does not depend on what the nodes carry. -/
theorem essence_perform (h : g.bare = g'.bare) (hc : c.isTopology = true) :
    (g.perform c).essence = (g'.perform c).essence := by
  have hbare : ∀ g : Graph, (g.bare.perform c).essence = (g.perform c).essence := by
    intro g
    obtain ⟨out, hout, hessence⟩ := (performs g c).bare hc
    rw [perform_iff.2 hout, hessence]
  calc (g.perform c).essence = (g.bare.perform c).essence := (hbare g).symm
    _ = (g'.bare.perform c).essence := by rw [h]
    _ = (g'.perform c).essence := hbare g'

/-- All other calls leave the bare graph as it is. -/
theorem bare_after (hc : c.isTopology = false) : (g.after c).bare = g.bare :=
  (performs g c).graph_bare hc

/-- The results of the calls on nodes and links in a history, in order, with bare nodes. -/
def topologyResults : Graph → List Call → List (Except Failure Answer)
  | _, [] => []
  | g, c :: calls =>
    if c.isTopology then (g.perform c).result.map Answer.bare :: topologyResults (g.after c) calls
    else topologyResults (g.after c) calls

/-- A history stays together with the history of its calls on nodes and links alone. -/
theorem run_bare (h : g.bare = g'.bare) (calls : List Call) :
    g.topologyResults calls = g'.topologyResults (calls.filter Call.isTopology) ∧
      (g.run calls).bare = (g'.run (calls.filter Call.isTopology)).bare := by
  induction calls generalizing g g' with
  | nil => exact ⟨rfl, h⟩
  | cons c calls ih =>
    cases hc : c.isTopology with
    | true =>
      -- Both histories make this call, with the same result and the same bare graph after it.
      have hessence := essence_perform h hc
      have hresult : (g.perform c).result.map Answer.bare = (g'.perform c).result.map Answer.bare :=
        congrArg Prod.fst hessence
      have hgraph : (g.after c).bare = (g'.after c).bare := congrArg Prod.snd hessence
      obtain ⟨hresults, hrun⟩ := ih hgraph
      rw [List.filter_cons_of_pos hc, run_cons, run_cons]
      refine ⟨?_, hrun⟩
      simp only [topologyResults, hc, if_true, hresult, hresults]
    | false =>
      -- Only one of the histories makes this call, which leaves the bare graph as it is.
      obtain ⟨hresults, hrun⟩ := ih ((bare_after hc).trans h)
      rw [List.filter_cons_of_neg (by simp [hc]), run_cons]
      refine ⟨?_, hrun⟩
      simp only [topologyResults, hc, Bool.false_eq_true, if_false, hresults]

/-- Two histories of a graph with the same calls on nodes and links have the same results of these
calls, up to what removed nodes carry, and leave the same ids and links behind, whatever the calls
in between are. The other way round, a call on links leaves everything that the nodes carry as it
is, and removing an operator takes away what this operator carries and nothing else. -/
theorem topology_independent (g : Graph) :
    (∀ calls calls' : List Call,
      calls.filter Call.isTopology = calls'.filter Call.isTopology →
      g.topologyResults calls = g.topologyResults calls' ∧
      (g.run calls).bare = (g.run calls').bare) ∧
    (∀ c : Call, c.isLinking = true → (g.after c).contents = g.contents) ∧
    ∀ o, (g.after (.removeOperator o)).contents =
      { g.contents with ops := g.contents.ops.erase o } := by
  refine ⟨fun calls calls' hcalls => ?_, fun c hc => (performs g c).contents hc, fun o => ?_⟩
  · obtain ⟨hresults, hrun⟩ := run_bare (rfl : g.bare = g.bare) calls
    obtain ⟨hresults', hrun'⟩ := run_bare (rfl : g.bare = g.bare) calls'
    rw [hresults, hrun, hcalls, ← hresults', ← hrun']
    exact ⟨rfl, rfl⟩
  · have hrule := Edit.perform_removeOperator.1 (rfl : (Edit.removeOperator o).perform g = _)
    rw [after, perform_iff.2 (.removeOperator hrule)]
    exact hrule.contents

/-- Two variables and an operator that is to read the one and write the other. -/
def unwired : Graph :=
  Graph.run ∅ [.addVariable [2, 3] .nc, .addVariable [2, 3] .nc, .addOperator "relu" ∅]

/-- The operator when it is wired, laid bare. -/
def wiredOperator : Operator where
  id := ⟨0⟩
  name := ""
  inputs := .ofList [("x", ⟨0⟩)]
  outputs := .ofList [("y", ⟨1⟩)]

/-- The operator is wired and removed. -/
def plainCalls : List Call :=
  [.bindInput ⟨0⟩ "x" ⟨0⟩, .bindOutput ⟨0⟩ "y" ⟨1⟩, .bindOutput ⟨0⟩ "z" ⟨1⟩, .removeOperator ⟨0⟩,
    .outputs]

/-- The operator is wired and removed while its nodes change what they carry. -/
def busyCalls : List Call :=
  [.setElementType ⟨0⟩ .float64, .bindInput ⟨0⟩ "x" ⟨0⟩, .setName (.operator ⟨0⟩) "tanh",
    .bindOutput ⟨0⟩ "y" ⟨1⟩, .reorder ⟨1⟩ .cn, .bindOutput ⟨0⟩ "z" ⟨1⟩, .reorder ⟨1⟩ .chw,
    .attach (.operator ⟨0⟩) .elementwise, .removeOperator ⟨0⟩, .outputs]

/-- Wiring and removing the operator goes the same way in both histories, up to its name, and what
they leave behind differs in what the nodes carry alone. -/
theorem topology_independent_busy :
    plainCalls.filter Call.isTopology = busyCalls.filter Call.isTopology ∧
    unwired.topologyResults plainCalls = unwired.topologyResults busyCalls ∧
    unwired.topologyResults busyCalls =
      [.ok .done, .ok .done, .error (.refused (.outputConflict ⟨1⟩ ⟨0⟩)),
        .ok (.removedOperator wiredOperator),
        .ok (.ids [])] ∧
    (unwired.run plainCalls).bare = (unwired.run busyCalls).bare ∧
    unwired.run plainCalls ≠ unwired.run busyCalls ∧
    (unwired.after (.bindInput ⟨0⟩ "x" ⟨0⟩)).contents = unwired.contents := by
  have hcalls : plainCalls.filter Call.isTopology = busyCalls.filter Call.isTopology := by decide
  obtain ⟨htwo, hlinking, -⟩ := topology_independent unwired
  obtain ⟨hresults, hrun⟩ := htwo plainCalls busyCalls hcalls
  exact ⟨hcalls, hresults, by decide, hrun, by decide, hlinking _ rfl⟩

end Graph

end TensorGraph
