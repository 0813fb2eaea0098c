import TensorGraph.Proofs.Consistent

/-!
# Histories that start with the empty graph

What each call keeps holds after every history of calls (`run_invariant`). The empty graph is keyed
and consistent, and no id has been handed out. So every graph that calls make from nothing is keyed
and consistent, whether the calls succeed or fail and in whatever order they come.
-/

namespace TensorGraph.Graph

variable {g : Graph}

/-- The first call comes first. -/
theorem run_cons (g : Graph) (c : Call) (calls : List Call) :
    g.run (c :: calls) = (g.after c).run calls := rfl

/-- Histories come one after the other. -/
theorem run_append (g : Graph) (calls later : List Call) :
    g.run (calls ++ later) = (g.run calls).run later :=
  List.foldl_append

/-- What every step keeps holds after every history. -/
theorem run_invariant {P : Graph → Prop} (h : P g) (hstep : ∀ {g g'}, P g → g.Step g' → P g')
    (calls : List Call) : P (g.run calls) := by
  induction calls generalizing g with
  | nil => exact h
  | cons c calls ih => exact ih (hstep h (step_after g c))

/-- The empty graph is keyed. -/
theorem keyed_empty : (∅ : Graph).Keyed where
  vars hw := nomatch hw
  ops hp := nomatch hp

/-- In the empty graph no id has been handed out. -/
theorem keysBelow_empty : (∅ : Graph).KeysBelow where
  vars hw := nomatch hw
  ops hp := nomatch hp

/-- The empty graph is consistent. -/
theorem consistent_empty : (∅ : Graph).Consistent where
  stored := fun ⟨_, _, hp, _⟩ => nomatch hp
  linked hw := nomatch hw
  single := fun ⟨_, hp, _⟩ => nomatch hp

/-- Every node is stored under its own id after every history. -/
theorem Keyed.run (h : g.Keyed) (calls : List Call) : (g.run calls).Keyed :=
  run_invariant h (fun h hs => h.step hs) calls

/-- All ids have been handed out after every history. -/
theorem KeysBelow.run (h : g.KeysBelow) (calls : List Call) : (g.run calls).KeysBelow :=
  run_invariant h (fun h hs => h.step hs) calls

/-- A graph that is consistent stays so through every history. -/
theorem Consistent.run (h : g.Consistent) (hkeys : g.KeysBelow) (calls : List Call) :
    (g.run calls).Consistent := by
  have hboth : (g.run calls).KeysBelow ∧ (g.run calls).Consistent :=
    run_invariant (P := fun g => g.KeysBelow ∧ g.Consistent) ⟨hkeys, h⟩
      (fun h hs => ⟨h.1.step hs, h.2.step h.1 hs⟩) calls
  exact hboth.2

/-- After every history that starts with the empty graph, every node is stored under its own id,
every variable in a slot is in the graph, a variable lists as consumers exactly the operators with
an input slot that holds it and names as producer exactly the operator with an output slot that
holds it, and no variable is in two output slots. -/
theorem run_empty_links (calls : List Call) :
    let g := (∅ : Graph).run calls
    (∀ v w, g.getVariable? v = some w → w.id = v) ∧
    (∀ o p, g.getOperator? o = some p → p.id = o) ∧
    (∀ role o slot v, g.HoldsAt role o slot v → ∃ w, g.getVariable? v = some w) ∧
    (∀ v w o, g.getVariable? v = some w →
      (o ∈ w.consumers ↔ ∃ slot, g.HoldsAt .input o slot v)) ∧
    (∀ v w o, g.getVariable? v = some w →
      (w.producer = some o ↔ ∃ slot, g.HoldsAt .output o slot v)) ∧
    ∀ o o' slot slot' v, g.HoldsAt .output o slot v → g.HoldsAt .output o' slot' v →
      o = o' ∧ slot = slot' := by
  intro g
  have hkeyed : g.Keyed := run_invariant keyed_empty (fun h hs => h.step hs) calls
  have hcons : g.Consistent := consistent_empty.run keysBelow_empty calls
  refine ⟨fun v w hw => hkeyed.vars hw, fun o p hp => hkeyed.ops hp, ?_, ?_, ?_, ?_⟩
  · exact fun role o slot v hheld => hcons.stored ⟨slot, hheld⟩
  · exact fun v w o hw => hcons.linked hw .input o
  · exact fun v w o hw => hcons.linked hw .output o
  · exact fun o o' slot slot' v hheld hheld' => hcons.single hheld hheld'

end TensorGraph.Graph
