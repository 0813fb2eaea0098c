import Mathlib.Data.List.Pairwise
import TensorGraph.Proofs.Runs

/-!
# Calls that can be exchanged

Two calls are independent when neither of them can tell whether the other one has been made, and
both together make the same graph whichever comes first. This is asked for on every graph, so that
it still holds after any other calls. Calls that are independent of one another can be made in any
order: each of them has the result that it would have alone (`results_eq_map`), and in the end the
graph is the same (`run_eq_of_perm`).
-/

namespace TensorGraph

namespace Graph

/-- The results of some calls, one after the other, whether they succeed or not. -/
def results : Graph → List Call → List (Except Failure Answer)
  | _, [] => []
  | g, c :: calls => (g.perform c).result :: results (g.after c) calls

end Graph

namespace Call

/-- The first call has the same result whether or not the second one has been made. -/
def Ignores (c c' : Call) : Prop :=
  ∀ g : Graph, ((g.after c').perform c).result = (g.perform c).result

/-- The calls do not notice each other, and it does not matter which of them comes first. -/
structure Independent (c c' : Call) : Prop where
  /-- The first call does not notice the second one. -/
  ignores : c.Ignores c'
  /-- The second call does not notice the first one. -/
  ignored : c'.Ignores c
  /-- Both together make the same graph in either order. -/
  after_comm : ∀ g : Graph, (g.after c).after c' = (g.after c').after c

/-- Independence goes both ways. -/
theorem Independent.symm {c c' : Call} (h : c.Independent c') : c'.Independent c :=
  ⟨h.ignored, h.ignores, fun g => (h.after_comm g).symm⟩

instance symm_independent : Std.Symm Independent := ⟨fun _ _ h => h.symm⟩

end Call

namespace Graph

variable {calls calls' : List Call}

/-- Of calls that are independent of one another, each has the result that it would have alone. -/
theorem results_eq_map (h : calls.Pairwise Call.Independent) (g : Graph) :
    g.results calls = calls.map fun c => (g.perform c).result := by
  induction calls generalizing g with
  | nil => rfl
  | cons c calls ih =>
    obtain ⟨hfirst, hrest⟩ := List.pairwise_cons.1 h
    -- The calls after the first one do not notice it.
    have hignored : calls.map (fun c' => ((g.after c).perform c').result) =
        calls.map fun c' => (g.perform c').result :=
      List.map_congr_left fun c' hc' => (hfirst c' hc').ignored g
    rw [results, ih hrest, hignored, List.map_cons]

/-- Calls that are independent of one another leave the same graph in every order. -/
theorem run_eq_of_perm (h : calls.Pairwise Call.Independent) (hperm : calls'.Perm calls)
    (g : Graph) : g.run calls' = g.run calls := by
  have hcomm : ∀ c ∈ calls, ∀ c' ∈ calls, ∀ g : Graph,
      (g.after c).after c' = (g.after c').after c := by
    intro c hc c' hc' g
    by_cases heq : c = c'
    · rw [heq]
    · exact (h.forall hc hc' heq).after_comm g
  exact (hperm.symm.foldl_eq' hcomm g).symm

/-- In every order, each of the calls has the result that it would have alone. -/
theorem results_eq_map_of_perm (h : calls.Pairwise Call.Independent) (hperm : calls'.Perm calls)
    (g : Graph) : g.results calls' = calls'.map fun c => (g.perform c).result :=
  results_eq_map (hperm.symm.pairwise h fun hc => hc.symm) g

end Graph

end TensorGraph
