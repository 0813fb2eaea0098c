import TensorGraph.Proofs.Codec.Nodes
import TensorGraph.Snapshot.Text

/-!
# The stored form of graphs is lawful

A graph can be read when each of its variables is addressable and the floats of all nodes are
finite. Nothing else is asked of it: what the nodes say about each other need not agree.
-/

namespace TensorGraph

namespace Snapshot

open Stored LawfulStored Result

/-- What is there is taken. -/
theorem expect_eq_ok {α : Type} {o : Option α} {a : α} : expect o = .ok a ↔ o = some a := by
  cases o with
  | none => simp [expect]
  | some b => simp [expect]

/-- A field that must be there is there when it is read. -/
theorem readField?_eq_ok {α : Type} [Stored α] {field : Option Json} {a : α} :
    readField? field = .ok (some a) ↔ ∃ j, field = some j ∧ ofJson j = .ok a := by
  cases field with
  | none => simp [readField?]
  | some j => simp [readField?, map_eq_ok]

/-- The names of the fields of a graph, in their order. -/
def graphFields : List String :=
  ["variables", "operators", "next_variable_id", "next_operator_id"]

/-- A graph is made of its fields. Whether there is one is up to the variables once the other fields
can be read. -/
theorem ofJson_graph_eq {j vars ops nextVariable nextOperator : Json}
    {operators : SortedMap OperatorId Operator} {v : VariableId} {o : OperatorId}
    (hfields : j.fields? graphFields =
      some [some vars, some ops, some nextVariable, some nextOperator])
    (hops : ofJson ops = .ok operators) (hv : ofJson nextVariable = .ok v)
    (ho : ofJson nextOperator = .ok o) :
    ofJson j = (ofJson vars).map fun arena => Graph.mk arena operators v o := by
  cases j with
  | object members =>
    obtain ⟨hlookup₁, hlookup₂, hlookup₃, hlookup₄⟩ : members.lookup "variables" = some vars ∧
        members.lookup "operators" = some ops ∧
        members.lookup "next_variable_id" = some nextVariable ∧
        members.lookup "next_operator_id" = some nextOperator := by
      simpa [Json.fields?, graphFields] using hfields
    -- The other fields are there and can be read, whatever comes of the variables.
    unfold instStoredGraph
    dsimp only
    rw [readField?_eq_ok.2 ⟨_, hlookup₄, ho⟩, readField?_eq_ok.2 ⟨_, hlookup₃, hv⟩,
      readField?_eq_ok.2 ⟨_, hlookup₂, hops⟩, hlookup₁]
    show ((ofJson vars).map some >>= _) = _
    cases (ofJson vars : Except SnapshotError (SortedMap VariableId Variable)) <;> rfl
  | array items =>
    obtain rfl : items = [vars, ops, nextVariable, nextOperator] := by
      simp only [Json.fields?] at hfields
      split at hfields
      · exact List.map_injective_iff.2 (Option.some_injective _) (Option.some.inj hfields)
      · cases hfields
    show (ofJson vars >>= fun arena => ofJson ops >>= fun operators =>
      ofJson nextVariable >>= fun v => ofJson nextOperator >>= fun o =>
        .ok (Graph.mk arena operators v o)) = _
    rw [hops, hv, ho]
    cases (ofJson vars : Except SnapshotError (SortedMap VariableId Variable)) <;> rfl
  | null => cases hfields
  | bool _ => cases hfields
  | whole _ => cases hfields
  | real _ => cases hfields
  | string _ => cases hfields

/-- What a graph is read from. -/
theorem ofJson_graph_eq_ok {j : Json} {g : Graph} :
    ofJson j = .ok g ↔ ∃ vars ops nextVariable nextOperator,
      j.fields? graphFields = some [some vars, some ops, some nextVariable, some nextOperator] ∧
      ofJson vars = .ok g.vars ∧ ofJson ops = .ok g.ops ∧
      ofJson nextVariable = .ok g.nextVariable ∧ ofJson nextOperator = .ok g.nextOperator := by
  constructor
  · intro h
    unfold instStoredGraph at h
    dsimp only at h
    split at h
    · obtain ⟨nextOperator, hnextOperator, h⟩ := bind_eq_ok.1 h
      obtain ⟨nextVariable, hnextVariable, h⟩ := bind_eq_ok.1 h
      obtain ⟨ops, hops, h⟩ := bind_eq_ok.1 h
      obtain ⟨vars, hvars, h⟩ := bind_eq_ok.1 h
      -- All four fields are there, which is looked at when they have been read.
      obtain ⟨nextOperator, h₁, h⟩ := bind_eq_ok.1 h
      obtain ⟨nextVariable, h₂, h⟩ := bind_eq_ok.1 h
      obtain ⟨ops, h₃, h⟩ := bind_eq_ok.1 h
      obtain ⟨vars, h₄, h⟩ := bind_eq_ok.1 h
      obtain rfl := Except.ok.inj h
      obtain rfl := expect_eq_ok.1 h₁
      obtain rfl := expect_eq_ok.1 h₂
      obtain rfl := expect_eq_ok.1 h₃
      obtain rfl := expect_eq_ok.1 h₄
      obtain ⟨j₁, hlookup₁, hread₁⟩ := readField?_eq_ok.1 hnextOperator
      obtain ⟨j₂, hlookup₂, hread₂⟩ := readField?_eq_ok.1 hnextVariable
      obtain ⟨j₃, hlookup₃, hread₃⟩ := readField?_eq_ok.1 hops
      obtain ⟨j₄, hlookup₄, hread₄⟩ := readField?_eq_ok.1 hvars
      refine ⟨j₄, j₃, j₂, j₁, ?_, hread₄, hread₃, hread₂, hread₁⟩
      simp [Json.fields?, graphFields, hlookup₁, hlookup₂, hlookup₃, hlookup₄]
    · obtain ⟨vars, hvars, h⟩ := bind_eq_ok.1 h
      obtain ⟨ops, hops, h⟩ := bind_eq_ok.1 h
      obtain ⟨nextVariable, hnextVariable, h⟩ := bind_eq_ok.1 h
      obtain ⟨nextOperator, hnextOperator, h⟩ := bind_eq_ok.1 h
      obtain ⟨j₁, h₁, hread₁⟩ := bind_eq_ok.1 hvars
      obtain ⟨j₂, h₂, hread₂⟩ := bind_eq_ok.1 hops
      obtain ⟨j₃, h₃, hread₃⟩ := bind_eq_ok.1 hnextVariable
      obtain ⟨j₄, h₄, hread₄⟩ := bind_eq_ok.1 hnextOperator
      split at h
      · next hlength =>
        obtain rfl := Except.ok.inj h
        refine ⟨j₁, j₂, j₃, j₄, ?_, hread₁, hread₂, hread₃, hread₄⟩
        -- There are four items, and the ones that were read are these.
        obtain ⟨a, b, c, d, rfl⟩ := List.length_eq_four.1 hlength
        cases h₁
        cases h₂
        cases h₃
        cases h₄
        rfl
      · cases h
    · cases h
  · rintro ⟨vars, ops, nextVariable, nextOperator, hfields, hvars, hops, hv, ho⟩
    rw [ofJson_graph_eq hfields hops hv ho, hvars]
    rfl

/-- A graph can be read when its variables are addressable and its floats are finite. -/
instance : LawfulStored Graph where
  Readable g := (∀ v w, g.getVariable? v = some w → w.Addressable) ∧ g.IsFinite
  ofJson_toJson := by
    intro g g'
    rw [ofJson_graph_eq_ok]
    constructor
    · rintro ⟨vars, ops, nextVariable, nextOperator, hfields, hread₁, hread₂, hread₃, hread₄⟩
      cases hfields
      obtain ⟨heq₁, hreadable₁⟩ := ofJson_toJson.1 hread₁
      obtain ⟨heq₂, hreadable₂⟩ := ofJson_toJson.1 hread₂
      obtain ⟨heq₃, -⟩ := ofJson_toJson.1 hread₃
      obtain ⟨heq₄, -⟩ := ofJson_toJson.1 hread₄
      have heq : g' = g := by
        obtain ⟨⟩ := g
        obtain ⟨⟩ := g'
        simp only [Graph.mk.injEq]
        exact ⟨heq₁, heq₂, heq₃, heq₄⟩
      exact ⟨heq, fun v w hw => (hreadable₁ v w hw).1,
        fun {v w} hw => (hreadable₁ v w hw).2, fun {o p} hp => hreadable₂ o p hp⟩
    · rintro ⟨rfl, haddr, hfinite⟩
      exact ⟨_, _, _, _, rfl,
        ofJson_toJson.2 ⟨rfl, fun v w hw => ⟨haddr v w hw, hfinite.vars hw⟩⟩,
        ofJson_toJson.2 ⟨rfl, fun o p hp => hfinite.ops hp⟩, ofJson_toJson.2 ⟨rfl, trivial⟩,
        ofJson_toJson.2 ⟨rfl, trivial⟩⟩
  readable_of_ofJson := by
    intro j g h
    obtain ⟨_, _, _, _, -, hvars, hops, -⟩ := ofJson_graph_eq_ok.1 h
    have hreadable₁ := readable_of_ofJson hvars
    have hreadable₂ := readable_of_ofJson hops
    exact ⟨fun v w hw => (hreadable₁ v w hw).1, fun {v w} hw => (hreadable₁ v w hw).2,
      fun {o p} hp => hreadable₂ o p hp⟩

end Snapshot

namespace Graph

open Snapshot

variable {g g' : Graph} {j : Json}

/-- The graph of a snapshot is the graph that it was taken of, and there is one when the variables
are addressable and the floats are finite. -/
theorem ofSnapshot_snapshot :
    ofSnapshot g.snapshot = .ok g' ↔
      g' = g ∧ (∀ v w, g.getVariable? v = some w → w.Addressable) ∧ g.IsFinite :=
  LawfulStored.ofJson_toJson

/-- The variables of the graph of a snapshot are addressable, and the floats are finite. -/
theorem readable_of_ofSnapshot (h : ofSnapshot j = .ok g) :
    (∀ v w, g.getVariable? v = some w → w.Addressable) ∧ g.IsFinite :=
  LawfulStored.readable_of_ofJson h

/-- Reading the text of a snapshot gives the graph with its floats read again, or nothing. -/
theorem eq_of_reload (h : g.reload = .ok g') : g' = g.mapFloats (·.reread) :=
  (ofSnapshot_snapshot.1 h).1

/-- Changing the floats changes each variable by itself. -/
@[simp]
theorem getVariable?_mapFloats (g : Graph) (f : Binary64 → Binary64) (v : VariableId) :
    (g.mapFloats f).getVariable? v = (g.getVariable? v).map (·.mapFloats f) :=
  SortedMap.get?_map _ _ _

/-- Changing the floats changes each operator by itself. -/
@[simp]
theorem getOperator?_mapFloats (g : Graph) (f : Binary64 → Binary64) (o : OperatorId) :
    (g.mapFloats f).getOperator? o = (g.getOperator? o).map (·.mapFloats f) :=
  SortedMap.get?_map _ _ _

end Graph

end TensorGraph
