import TensorGraph.Proofs.Addressable
import TensorGraph.Proofs.Codec.Basic

/-!
# The stored forms of nodes and graphs are lawful

A parameter can be read when its floats are finite, annotations when their parameters can, and a
graph when its nodes can. A variable must be addressable besides, since it is built from its stored
shape, order and element type.
-/

namespace TensorGraph

/-- Every float in the parameters is finite. -/
def Annotations.IsFinite (n : Annotations) : Prop :=
  ∀ name value, n.parameters.get? name = some value → value.isFinite = true

/-- Every float in the parameters of every node is finite. -/
structure Graph.IsFinite (g : Graph) : Prop where
  /-- The parameters of the variables are finite. -/
  vars : ∀ {v w}, g.getVariable? v = some w → w.annotations.IsFinite
  /-- The parameters of the operators are finite. -/
  ops : ∀ {o p}, g.getOperator? o = some p → p.annotations.IsFinite

/-- Finiteness is decided by a look at the parameters. -/
instance (n : Annotations) : Decidable n.IsFinite :=
  decidable_of_iff (∀ value ∈ n.parameters.values, value.isFinite = true)
    SortedMap.forall_mem_values

/-- Finiteness is decided by a look at the nodes. -/
instance (g : Graph) : Decidable g.IsFinite :=
  decidable_of_iff ((∀ w ∈ g.vars.values, w.annotations.IsFinite) ∧
      ∀ p ∈ g.ops.values, p.annotations.IsFinite) <| by
    rw [SortedMap.forall_mem_values, SortedMap.forall_mem_values]
    exact ⟨fun h => ⟨fun {v w} => h.1 v w, fun {o p} => h.2 o p⟩,
      fun h => ⟨fun _ _ => h.vars, fun _ _ => h.ops⟩⟩

namespace Snapshot

open Stored LawfulStored Result

/-! ## Parameters and annotations -/

/-- A parameter can be read when its floats are finite. -/
instance : LawfulStored Parameter where
  Readable p := p.isFinite = true
  ofJson_toJson := by
    intro p q
    cases p with
    | bool b =>
      show (ofJson (toJson b)).map Parameter.bool = .ok q ↔ _
      rw [map_ofJson_toJson]
      exact and_congr_right fun _ => iff_of_true trivial rfl
    | int n =>
      show (ofJson (toJson n)).map Parameter.int = .ok q ↔ _
      rw [map_ofJson_toJson]
      exact and_congr_right fun _ => iff_of_true trivial rfl
    | float x =>
      show (ofJson (toJson x)).map Parameter.float = .ok q ↔ _
      rw [map_ofJson_toJson]
      exact Iff.rfl
    | string s =>
      show (ofJson (toJson s)).map Parameter.string = .ok q ↔ _
      rw [map_ofJson_toJson]
      exact and_congr_right fun _ => iff_of_true trivial rfl
    | ints l =>
      show (ofJson (toJson l)).map Parameter.ints = .ok q ↔ _
      rw [map_ofJson_toJson]
      exact and_congr_right fun _ => iff_of_true (fun _ _ => trivial) rfl
    | floats l =>
      show (ofJson (toJson l)).map Parameter.floats = .ok q ↔ _
      rw [map_ofJson_toJson]
      exact and_congr_right fun _ => List.all_eq_true.symm
  readable_of_ofJson := by
    intro j p h
    simp only [ofJson] at h
    split at h
    · obtain ⟨b, -, rfl⟩ := readable_of_map h
      rfl
    · obtain ⟨n, -, rfl⟩ := readable_of_map h
      rfl
    · obtain ⟨x, hx, rfl⟩ := readable_of_map h
      exact hx
    · obtain ⟨s, -, rfl⟩ := readable_of_map h
      rfl
    · obtain ⟨l, -, rfl⟩ := readable_of_map h
      rfl
    · obtain ⟨l, hl, rfl⟩ := readable_of_map h
      exact List.all_eq_true.2 hl
    · cases h

/-- What annotations are read from. -/
theorem ofJson_annotations_eq_ok {j : Json} {n : Annotations} :
    ofJson j = .ok n ↔ ∃ attributes parameters,
      j.fields? ["attributes", "parameters"] = some [some attributes, some parameters] ∧
      ofJson attributes = .ok n.attributes ∧ ofJson parameters = .ok n.parameters := by
  unfold instStoredAnnotations
  dsimp only
  constructor
  · intro h
    split at h
    · next hfields =>
      obtain ⟨attributes, hattributes, h⟩ := bind_eq_ok.1 h
      obtain ⟨parameters, hparameters, h⟩ := bind_eq_ok.1 h
      obtain rfl := Except.ok.inj h
      exact ⟨_, _, hfields, hattributes, hparameters⟩
    · cases h
  · rintro ⟨attributes, parameters, hfields, hattributes, hparameters⟩
    rw [hfields]
    dsimp only
    rw [hattributes, hparameters]
    rfl

/-- Annotations can be read when their floats are finite. -/
instance : LawfulStored Annotations where
  Readable := Annotations.IsFinite
  ofJson_toJson := by
    intro n m
    rw [ofJson_annotations_eq_ok]
    constructor
    · rintro ⟨attributes, parameters, hfields, hattributes, hparameters⟩
      cases hfields
      obtain ⟨heq, -⟩ := ofJson_toJson.1 hattributes
      obtain ⟨heq', hfinite⟩ := ofJson_toJson.1 hparameters
      exact ⟨Annotations.ext heq heq', hfinite⟩
    · rintro ⟨rfl, hfinite⟩
      exact ⟨_, _, rfl, ofJson_toJson.2 ⟨rfl, fun _ _ => trivial⟩, ofJson_toJson.2 ⟨rfl, hfinite⟩⟩
  readable_of_ofJson := by
    intro j n h
    obtain ⟨attributes, parameters, -, -, hparameters⟩ := ofJson_annotations_eq_ok.1 h
    exact readable_of_ofJson hparameters

/-! ## Variables and operators -/

/-- The JSON value is a record with the fields of a variable, each of which can be read. Nothing is
said about how the fields go together, so that there need not be such a variable. -/
def FieldsOf (j : Json) (v : Variable) : Prop :=
  ∃ id annotations name shape order elementType consumers producer,
    j.fields? ["id", "base", "name", "shape", "axis_order", "dtype", "input_to", "output_from"] =
      some [some id, some annotations, name, some shape, some order, some elementType,
        some consumers, producer] ∧
    ofJson id = .ok v.id ∧ ofJson annotations = .ok v.annotations ∧
    ofField? name = .ok v.name ∧ ofJson shape = .ok v.shape ∧ ofJson order = .ok v.order ∧
    ofJson elementType = .ok v.elementType ∧ ofJson consumers = .ok v.consumers ∧
    ofField? producer = .ok v.producer

/-- A variable is made of its fields. -/
theorem FieldsOf.ofJson_eq {j : Json} {v : Variable} (h : FieldsOf j v) :
    ofJson j = restoreVariable v := by
  obtain ⟨id, annotations, name, shape, order, elementType, consumers, producer, hfields, hid,
    hannotations, hname, hshape, horder, htype, hconsumers, hproducer⟩ := h
  unfold instStoredVariable
  dsimp only
  rw [hfields]
  dsimp only
  rw [hid, hannotations, hname, hshape, horder, htype, hconsumers, hproducer]
  rfl

/-- A variable is read from its fields, where it is addressable. -/
theorem ofJson_variable_eq_ok {j : Json} {v : Variable} :
    ofJson j = .ok v ↔ FieldsOf j v ∧ v.Addressable := by
  constructor
  · intro h
    unfold instStoredVariable at h
    dsimp only at h
    split at h
    · next hfields =>
      obtain ⟨id, hid, h⟩ := bind_eq_ok.1 h
      obtain ⟨annotations, hannotations, h⟩ := bind_eq_ok.1 h
      obtain ⟨name, hname, h⟩ := bind_eq_ok.1 h
      obtain ⟨shape, hshape, h⟩ := bind_eq_ok.1 h
      obtain ⟨order, horder, h⟩ := bind_eq_ok.1 h
      obtain ⟨elementType, htype, h⟩ := bind_eq_ok.1 h
      obtain ⟨consumers, hconsumers, h⟩ := bind_eq_ok.1 h
      obtain ⟨producer, hproducer, h⟩ := bind_eq_ok.1 h
      -- The fields are put together by the checks of a new variable.
      obtain ⟨haddr, rfl⟩ := Variable.restoreVariable_eq_ok.1 h
      exact ⟨⟨_, _, _, _, _, _, _, _, hfields, hid, hannotations, hname, hshape, horder, htype,
        hconsumers, hproducer⟩, haddr⟩
    · cases h
  · rintro ⟨hfields, haddr⟩
    rw [hfields.ofJson_eq]
    exact Variable.restoreVariable_eq_ok.2 ⟨haddr, rfl⟩

/-- The fields of a stored variable are those of the variable, and can be read when its floats are
finite. -/
theorem fieldsOf_toJson {v w : Variable} :
    FieldsOf (toJson v) w ↔ w = v ∧ v.annotations.IsFinite := by
  constructor
  · rintro ⟨id, annotations, name, shape, order, elementType, consumers, producer, hfields, hid,
      hannotations, hname, hshape, horder, htype, hconsumers, hproducer⟩
    cases hfields
    -- Each field comes back as it was, and they are all that there is to a variable.
    have hfinite := (ofJson_toJson.1 hannotations).2
    have heq : w = v := by
      obtain ⟨⟩ := v
      obtain ⟨⟩ := w
      simp only [Variable.mk.injEq]
      exact ⟨(ofJson_toJson.1 hid).1, (ofJson_toJson.1 hannotations).1,
        (ofJson_toJson.1 hname).1, (ofJson_toJson.1 hshape).1, (ofJson_toJson.1 horder).1,
        (ofJson_toJson.1 htype).1, (ofJson_toJson.1 hconsumers).1,
        (ofJson_toJson.1 hproducer).1⟩
    exact ⟨heq, hfinite⟩
  · rintro ⟨rfl, hfinite⟩
    exact ⟨_, _, _, _, _, _, _, _, rfl, ofJson_toJson.2 ⟨rfl, trivial⟩,
      ofJson_toJson.2 ⟨rfl, hfinite⟩, ofJson_toJson.2 ⟨rfl, fun _ _ => trivial⟩,
      ofJson_toJson.2 ⟨rfl, fun _ _ => trivial⟩, ofJson_toJson.2 ⟨rfl, trivial⟩,
      ofJson_toJson.2 ⟨rfl, trivial⟩, ofJson_toJson.2 ⟨rfl, fun _ _ => trivial⟩,
      ofJson_toJson.2 ⟨rfl, fun _ _ => trivial⟩⟩

/-- A variable can be read when it is addressable and its floats are finite. -/
instance : LawfulStored Variable where
  Readable v := v.Addressable ∧ v.annotations.IsFinite
  ofJson_toJson := by
    intro v w
    rw [ofJson_variable_eq_ok, fieldsOf_toJson]
    constructor
    · rintro ⟨⟨rfl, hfinite⟩, haddr⟩
      exact ⟨rfl, haddr, hfinite⟩
    · rintro ⟨rfl, haddr, hfinite⟩
      exact ⟨⟨rfl, hfinite⟩, haddr⟩
  readable_of_ofJson := by
    intro j v h
    obtain ⟨⟨_, _, _, _, _, _, _, _, -, -, hannotations, -⟩, haddr⟩ := ofJson_variable_eq_ok.1 h
    exact ⟨haddr, readable_of_ofJson hannotations⟩

/-- What an operator is read from. -/
theorem ofJson_operator_eq_ok {j : Json} {o : Operator} :
    ofJson j = .ok o ↔ ∃ id annotations name inputs outputs,
      j.fields? ["id", "base", "name", "inputs", "outputs"] =
        some [some id, some annotations, some name, some inputs, some outputs] ∧
      ofJson id = .ok o.id ∧ ofJson annotations = .ok o.annotations ∧ ofJson name = .ok o.name ∧
      ofJson inputs = .ok o.inputs ∧ ofJson outputs = .ok o.outputs := by
  unfold instStoredOperator
  dsimp only
  constructor
  · intro h
    split at h
    · next hfields =>
      obtain ⟨id, hid, h⟩ := bind_eq_ok.1 h
      obtain ⟨annotations, hannotations, h⟩ := bind_eq_ok.1 h
      obtain ⟨name, hname, h⟩ := bind_eq_ok.1 h
      obtain ⟨inputs, hinputs, h⟩ := bind_eq_ok.1 h
      obtain ⟨outputs, houtputs, h⟩ := bind_eq_ok.1 h
      obtain rfl := Except.ok.inj h
      exact ⟨_, _, _, _, _, hfields, hid, hannotations, hname, hinputs, houtputs⟩
    · cases h
  · rintro ⟨id, annotations, name, inputs, outputs, hfields, hid, hannotations, hname, hinputs,
      houtputs⟩
    rw [hfields]
    dsimp only
    rw [hid, hannotations, hname, hinputs, houtputs]
    rfl

/-- An operator can be read when its floats are finite. -/
instance : LawfulStored Operator where
  Readable o := o.annotations.IsFinite
  ofJson_toJson := by
    intro o p
    rw [ofJson_operator_eq_ok]
    constructor
    · rintro ⟨id, annotations, name, inputs, outputs, hfields, hid, hannotations, hname, hinputs,
        houtputs⟩
      cases hfields
      have hfinite := (ofJson_toJson.1 hannotations).2
      have heq : p = o := by
        obtain ⟨⟩ := o
        obtain ⟨⟩ := p
        simp only [Operator.mk.injEq]
        exact ⟨(ofJson_toJson.1 hid).1, (ofJson_toJson.1 hannotations).1,
          (ofJson_toJson.1 hname).1, (ofJson_toJson.1 hinputs).1, (ofJson_toJson.1 houtputs).1⟩
      exact ⟨heq, hfinite⟩
    · rintro ⟨rfl, hfinite⟩
      exact ⟨_, _, _, _, _, rfl, ofJson_toJson.2 ⟨rfl, trivial⟩, ofJson_toJson.2 ⟨rfl, hfinite⟩,
        ofJson_toJson.2 ⟨rfl, trivial⟩, ofJson_toJson.2 ⟨rfl, fun _ _ _ => trivial⟩,
        ofJson_toJson.2 ⟨rfl, fun _ _ _ => trivial⟩⟩
  readable_of_ofJson := by
    intro j o h
    obtain ⟨_, _, _, _, _, -, -, hannotations, -⟩ := ofJson_operator_eq_ok.1 h
    exact readable_of_ofJson hannotations

end Snapshot

end TensorGraph
