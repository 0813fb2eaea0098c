import TensorGraph.Proofs.Renaming
import TensorGraph.Proofs.Replacement

/-!
# Putting an operator together again

A caller that has removed an operator holds it as it was, and can add another one of the same name
and with the same parameters, attach the same attributes to it, and bind the same variables to its
slots. In whatever order this is done, the graph becomes what it was before the removal, but for the
id of the operator (`run_empty_rewire`).

That no order fails is seen from the end. An operator that lacks one of its attributes or links is
one call away from being complete (`Consistent.exists_lacking`), in a graph that is consistent again
and has the same remainder without the operator. So the calls of any order can be taken back from
the last to the first, until the operator has its name and its parameters alone
(`Consistent.attemptAll_parts`).
-/

namespace TensorGraph

namespace Operator

/-- What an operator has besides its name and its parameters: an attribute, or a slot with a
variable. -/
inductive Part where
  /-- An attribute. -/
  | tag (a : Attribute)
  /-- A slot of one side with the variable that it holds. -/
  | link (role : Role) (slot : String) (v : VariableId)
deriving DecidableEq

/-- The call that gives a part to an operator. -/
def Part.call (o : OperatorId) : Part → Call
  | tag a => .attach (.operator o) a
  | link role slot v => .bind role o slot v

/-- The links of one side. -/
def links (p : Operator) (role : Role) : List Part :=
  (p.slots role).toList.map fun e => .link role e.1 e.2

/-- All attributes and links of an operator, each once. -/
def parts (p : Operator) : List Part :=
  p.annotations.attributes.toList.map .tag ++ (p.links .input ++ p.links .output)

/-- The operator has the part. -/
def Has (p : Operator) : Part → Prop
  | .tag a => a ∈ p.annotations.attributes
  | .link role slot v => (p.slots role).get? slot = some v

/-- The operator without one of its parts. -/
def lacking (p : Operator) : Part → Operator
  | .tag a => { p with annotations := p.annotations.detach a }
  | .link role slot _ => p.clearSlot role slot

/-- The operator without parts, which has its name and its parameters. -/
def frame (p : Operator) : Operator :=
  { p with annotations := { parameters := p.annotations.parameters }, inputs := ∅, outputs := ∅ }

variable {p : Operator} {part x : Part} {role : Role}

/-- The links of one side are parts of the operator on that side. -/
theorem mem_links : x ∈ p.links role ↔ ∃ slot v, x = .link role slot v ∧ p.Has x := by
  unfold links
  rw [List.mem_map]
  constructor
  · rintro ⟨⟨slot, v⟩, hmem, rfl⟩
    exact ⟨slot, v, rfl, SortedMap.mem_toList.1 hmem⟩
  · rintro ⟨slot, v, rfl, hhas⟩
    exact ⟨(slot, v), SortedMap.mem_toList.2 hhas, rfl⟩

/-- The parts are what the operator has. -/
theorem mem_parts : x ∈ p.parts ↔ p.Has x := by
  unfold parts
  rw [List.mem_append, List.mem_append, List.mem_map, mem_links, mem_links]
  cases x with
  | tag a => simp [Has]
  | link role slot v => cases role <;> simp [Has]

/-- No link is listed twice. -/
theorem nodup_links (p : Operator) (role : Role) : (p.links role).Nodup := by
  refine List.pairwise_map.2 ((p.slots role).nodup_toList.imp fun hne heq => hne ?_)
  obtain ⟨-, hslot, hv⟩ := Part.link.inj heq
  exact Prod.ext hslot hv

/-- No part is listed twice. -/
theorem nodup_parts (p : Operator) : p.parts.Nodup := by
  have hattributes : (p.annotations.attributes.toList.map Part.tag).Nodup := by
    refine List.pairwise_map.2 (p.annotations.attributes.members.keys_sorted.imp ?_)
    exact fun hlt heq => Key.ne_of_lt hlt (Part.tag.inj heq)
  -- The two sides of an operator have no link in common, and no link is an attribute.
  refine List.nodup_append.2 ⟨hattributes, List.nodup_append.2 ⟨p.nodup_links .input,
    p.nodup_links .output, fun x hx y hy heq => ?_⟩, fun x hx y hy heq => ?_⟩
  · obtain ⟨_, _, rfl, -⟩ := mem_links.1 hx
    obtain ⟨_, _, rfl, -⟩ := mem_links.1 hy
    cases heq
  · obtain ⟨a, -, rfl⟩ := List.mem_map.1 hx
    rcases List.mem_append.1 hy with hy | hy
    · obtain ⟨_, _, rfl, -⟩ := mem_links.1 hy
      cases heq
    · obtain ⟨_, _, rfl, -⟩ := mem_links.1 hy
      cases heq

/-- An operator that lacks a part has all others. -/
theorem has_lacking (h : p.Has part) : (p.lacking part).Has x ↔ p.Has x ∧ x ≠ part := by
  cases part with
  | tag a =>
    cases x with
    | tag b => simp [Has, lacking, Annotations.detach, and_comm]
    | link r s u => cases r <;> simp [Has, lacking, slots]
  | link role slot v =>
    have hslot : (p.slots role).get? slot = some v := h
    cases x with
    | tag b => cases role <;> simp [Has, lacking, clearSlot, clearInput, clearOutput]
    | link r s u =>
      -- Emptying the slot takes away what it holds, which is the link in question.
      simp only [Has, lacking, slots_clearSlot]
      by_cases hr : r = role
      · subst hr
        rw [if_pos rfl, SortedMap.get?_erase]
        by_cases hs : s = slot
        · subst hs
          simp [hslot, eq_comm]
        · simp [hs]
      · simp [hr]

/-- The parts are one of them and those that are left when it is gone. -/
theorem parts_perm (h : p.Has part) : p.parts.Perm (part :: (p.lacking part).parts) := by
  refine SortedMap.perm_cons_of_mem_iff p.nodup_parts (nodup_parts _) (mem_parts.2 h) fun x => ?_
  rw [mem_parts, mem_parts, has_lacking h]

/-- Another id makes no difference to the parts. -/
@[simp]
theorem parts_rename (f : OperatorId → OperatorId) (p : Operator) :
    (p.rename f).parts = p.parts := rfl

/-- What an operator is without parts does not depend on them. -/
theorem frame_lacking (p : Operator) (part : Part) : (p.lacking part).frame = p.frame := by
  cases part with
  | tag a => rfl
  | link role slot v => cases role <;> rfl

/-- An operator that has no parts has no slots. -/
theorem slots_of_parts (h : p.parts = []) (role : Role) : p.slots role = ∅ := by
  refine SortedMap.ext_get? fun slot => Option.eq_none_iff_forall_ne_some.2 fun v hv => ?_
  have hmem : Part.link role slot v ∈ p.parts := mem_parts.2 hv
  rw [h] at hmem
  cases hmem

/-- An operator that has no parts is its own frame. -/
theorem frame_of_parts (h : p.parts = []) : p.frame = p := by
  have hattributes : p.annotations.attributes = ∅ := by
    refine SortedSet.ext_mem fun a => iff_of_false (fun ha => ?_) (SortedSet.not_mem_empty a)
    have hmem : Part.tag a ∈ p.parts := mem_parts.2 ha
    rw [h] at hmem
    cases hmem
  have hannotations : ({ parameters := p.annotations.parameters } : Annotations) = p.annotations :=
    Annotations.ext hattributes.symm rfl
  have hinputs : p.slots .input = ∅ := slots_of_parts h .input
  have houtputs : p.slots .output = ∅ := slots_of_parts h .output
  calc p.frame
      = ⟨p.id, { parameters := p.annotations.parameters }, p.name, ∅, ∅⟩ := rfl
    _ = ⟨p.id, p.annotations, p.name, p.slots .input, p.slots .output⟩ := by
      rw [hannotations, hinputs, houtputs]
    _ = p := rfl

end Operator

namespace Graph

open Operator (Part)

variable {g : Graph} {o : OperatorId} {p p' : Operator} {part : Part} {parts : List Part}
  {next : OperatorId}

/-- The graph in which an operator that reads and writes like `p` has lost all of its parts. -/
def reduced (g : Graph) (o : OperatorId) (p : Operator) : Graph :=
  (g.detached o p).written [.putOperator o p.frame]

/-- What a removal leaves depends on the slots of the operator and not on what else it carries. -/
theorem detached_putOperator (hinputs : p'.inputs = p.inputs) (houtputs : p'.outputs = p.outputs) :
    (g.written [.putOperator o p']).detached o p' = g.detached o p := by
  have hwithout : ∀ (w : Variable) v, w.without o p' v = w.without o p v := by
    intro w v
    rw [Variable.without, Variable.without, Operator.consumed, Operator.produced, hinputs, houtputs]
    rfl
  refine detached_congr (fun v => ?_) (fun q hq => ?_) rfl rfl
  · exact congrArg (Option.map · _) (funext fun w => hwithout w v)
  · rw [written_cons, written_nil, Write.getOperator?_putOperator, if_neg hq]

/-- An operator that has no parts has none to lose. -/
theorem reduced_of_parts (hp : g.getOperator? o = some p) (hparts : p.parts = []) :
    g.reduced o p = g := by
  have hslots : ∀ role, (p.slots role).values = [] := by
    intro role
    rw [Operator.slots_of_parts hparts]
    rfl
  have hconsumed : p.consumed = [] := hslots .input
  have hproduced : p.produced = [] := hslots .output
  have hwithout : ∀ (w : Variable) v, w.without o p v = w := by
    intro w v
    rw [Variable.without, hconsumed, hproduced, if_neg List.not_mem_nil, if_neg List.not_mem_nil]
  rw [reduced, Operator.frame_of_parts hparts]
  refine ext_get? (fun v => ?_) (fun q => ?_) ?_ ?_
  · rw [written_cons, written_nil, Write.getVariable?_putOperator, getVariable?_detached]
    simp only [hwithout, Option.map_id']
  · rw [written_cons, written_nil, Write.getOperator?_putOperator, getOperator?_detached]
    split
    · next hq => rw [hq, hp]
    · rfl
  · exact nextVariable_detached g o p
  · exact nextOperator_detached g o p

/-- In a consistent graph, each part of an operator is the last that it has been given: without it
the graph is consistent, and the call that gives the part makes the graph what it is. -/
theorem Consistent.exists_lacking (h : g.Consistent) (hp : g.getOperator? o = some p)
    (hpart : p.Has part) :
    ∃ g' : Graph, g'.Consistent ∧ g'.getOperator? o = some (p.lacking part) ∧
      g'.detached o (p.lacking part) = g.detached o p ∧ g'.attempt (part.call o) = .ok g := by
  cases part with
  | tag a =>
    have hmember : a ∈ p.annotations.attributes := hpart
    have hp' : (g.written [.putOperator o (p.lacking (.tag a))]).getOperator? o =
        some (p.lacking (.tag a)) := by
      rw [written_cons, written_nil, Write.getOperator?_putOperator, if_pos rfl]
    have hannotations : (p.annotations.detach a).attach a = p.annotations := by
      rw [Annotations.detach, Annotations.attach, SortedSet.insert_erase,
        SortedSet.insert_of_mem hmember]
    -- Attaching the attribute again stores the operator as it was.
    have hback : (g.written [.putOperator o (p.lacking (.tag a))]).written
        [.putOperator o { p with annotations := (p.annotations.detach a).attach a }] = g := by
      rw [hannotations, written_putOperator_putOperator]
      exact apply_putOperator_of_some hp
    have hrule := Rules.Performs.annotateOperator (c := .attach (.operator o) a) rfl (.amended hp')
    refine ⟨g.written [.putOperator o (p.lacking (.tag a))], h.amendOperator hp (.annotated _), hp',
      detached_putOperator rfl rfl, ?_⟩
    rw [Part.call, attempt_of_rule hrule]
    exact congrArg Except.ok hback
  | link role slot v =>
    have hs : (p.slots role).get? slot = some v := hpart
    obtain ⟨w, hw⟩ := h.stored ⟨slot, (holdsAt_iff hp).2 hs⟩
    exact ⟨g.unbound role o slot p v w, h.unbind hp hw hs, getOperator?_unbound_self ..,
      detached_unbound hw hs, attempt_bind_unbound h hp hw hs⟩

/-- In a consistent graph, an operator that has lost its parts becomes what it was when they are
given to it, in any order. -/
theorem Consistent.attemptAll_parts (h : g.Consistent) (hp : g.getOperator? o = some p)
    (hparts : parts.Perm p.parts) :
    (g.reduced o p).attemptAll (parts.map (·.call o)) = .ok g := by
  -- The last part comes off first. What is left are the parts of an operator that lacks it.
  induction parts using List.reverseRecOn generalizing g p with
  | nil =>
    rw [reduced_of_parts hp hparts.nil_eq.symm]
    exact attemptAll_nil g
  | append_singleton parts part ih =>
    have hsplit : (part :: parts).Perm p.parts :=
      (List.perm_append_singleton part parts).symm.trans hparts
    have hpart : p.Has part := Operator.mem_parts.1 (hsplit.mem_iff.1 List.mem_cons_self)
    obtain ⟨g', hcons, hp', hsame, hlast⟩ := h.exists_lacking hp hpart
    have hrest : parts.Perm (p.lacking part).parts :=
      (hsplit.trans (Operator.parts_perm hpart)).cons_inv
    have hreduced : g.reduced o p = g'.reduced o (p.lacking part) := by
      rw [reduced, reduced, hsame, Operator.frame_lacking]
    rw [hreduced, List.map_append, attemptAll_append, ih hcons hp' hrest]
    exact attemptAll_cons_eq_ok.2 ⟨g, hlast, attemptAll_nil g⟩

/-! ## Under a new id -/

/-- The id that comes next makes no difference to a removal. -/
theorem detached_nextOperator (g : Graph) (o : OperatorId) (p : Operator) (next : OperatorId) :
    ({ g with nextOperator := next } : Graph).detached o p =
      { g.detached o p with nextOperator := next } := by
  refine ext_get? (fun v => ?_) (fun q => ?_) ?_ ?_
  · rw [getVariable?_detached]
    exact (getVariable?_detached g o p v).symm
  · rw [getOperator?_detached]
    exact (getOperator?_detached g o q p).symm
  · rw [nextVariable_detached]
    exact (nextVariable_detached g o p).symm
  · exact nextOperator_detached _ o p

/-- In a consistent graph, an operator that has been removed and added again by its name and with
its parameters becomes what it was, under the id that came next, when its parts are given to it. -/
theorem Consistent.attemptAll_parts_of_added (h : g.Consistent) (hkeyed : g.Keyed)
    (hkeys : g.KeysBelow) (hp : g.getOperator? o = some p) (hparts : parts.Perm p.parts) :
    ((g.detached o p).written [.nextOperator next, .putOperator g.nextOperator
      (Rules.newOperator (g.detached o p) p.name p.annotations.parameters)]).attemptAll
        (parts.map (·.call g.nextOperator)) =
      .ok { g.rename (Id.replaced o g.nextOperator) with nextOperator := next } := by
  have hfresh : g.getOperator? g.nextOperator = none := hkeys.getOperator?_next
  -- The graph that is to be reached. It is consistent, and lacks no part of the operator.
  have hcounted : ({ g with nextOperator := next } : Graph).Consistent :=
    h.congr Iff.rfl (fun hw => ⟨_, hw⟩) fun hw => ⟨_, hw, fun _ _ => Iff.rfl⟩
  have hcons := hcounted.rename (separates_replaced (o := o) hfresh)
  have hall : parts.Perm (p.rename (Id.replaced o g.nextOperator)).parts := by
    rwa [Operator.parts_rename]
  have hcomplete := hcons.attemptAll_parts (getOperator?_rename_replaced hfresh hp) hall
  -- Without the parts it is the graph with the new operator.
  have hframe : (p.rename (Id.replaced o g.nextOperator)).frame =
      Rules.newOperator (g.detached o p) p.name p.annotations.parameters := by
    have hid : Id.replaced o g.nextOperator p.id = (g.detached o p).nextOperator := by
      rw [hkeyed.ops hp, Id.replaced_self, nextOperator_detached]
    rw [Operator.frame, Rules.newOperator, ← hid]
    rfl
  have hadded : (({ g with nextOperator := next } : Graph).rename
        (Id.replaced o g.nextOperator)).reduced g.nextOperator
          (p.rename (Id.replaced o g.nextOperator)) =
      (g.detached o p).written [.nextOperator next, .putOperator g.nextOperator
        (Rules.newOperator (g.detached o p) p.name p.annotations.parameters)] := by
    rw [reduced, hcounted.detached_rename ⟨hkeyed.vars, hkeyed.ops⟩ hfresh hp, hframe,
      detached_nextOperator]
    rfl
  rwa [hadded] at hcomplete

/-- After every history that starts with the empty graph, an operator can be removed and put
together again under a new id, where there is one left: by its name and with its parameters it is
added, and then its attributes and its links are given to it, in any order. Every call succeeds, and
the graph is then what it was, with the new id wherever there was the old one, and with one id more
handed out. -/
theorem run_empty_rewire (calls : List Call) (o : OperatorId) (p : Operator)
    (hp : (Graph.run ∅ calls).getOperator? o = some p)
    (hroom : (Graph.run ∅ calls).nextOperator.toNat < 2 ^ 64 - 1) :
    let g := Graph.run ∅ calls
    let n := g.nextOperator
    let g₁ := g.after (.removeOperator o)
    let g₂ := g₁.after (.addOperator p.name p.annotations.parameters)
    (g.perform (.removeOperator o)).result = .ok (.removedOperator p) ∧
    (g₁.perform (.addOperator p.name p.annotations.parameters)).result = .ok (.operatorId n) ∧
    ∃ next : OperatorId, next.toNat = n.toNat + 1 ∧
      ∀ parts : List Part, parts.Perm p.parts → g₂.attemptAll (parts.map (·.call n)) =
        .ok { g.rename (Id.replaced o n) with nextOperator := next } := by
  intro g n g₁ g₂
  have hkeyed : g.Keyed := run_invariant keyed_empty (fun h hs => h.step hs) calls
  have hkeys : g.KeysBelow := keysBelow_empty.run calls
  have hcons : g.Consistent := consistent_empty.run keysBelow_empty calls
  obtain ⟨next, hnext⟩ : ∃ next, n.succ? = some next := by
    refine Option.ne_none_iff_exists'.1 fun hnone => ?_
    have hlast : n.toNat + 1 = 2 ^ 64 := Id.succ?_eq_none.1 hnone
    have hbelow : n.toNat < 2 ^ 64 - 1 := hroom
    omega
  have hremove := perform_iff.2 (.removeOperator (.removed hp))
  have hg₁ : g₁ = g.detached o p := after_of_attempt (attempt_removeOperator hp)
  have hcounter : g₁.nextOperator = n := by
    rw [hg₁, nextOperator_detached]
  have hadd : g₁.perform (.addOperator p.name p.annotations.parameters) = _ :=
    perform_iff.2 (.addOperator (.added (hcounter ▸ hnext)))
  refine ⟨?_, ?_, next, (Id.succ?_eq_some.1 hnext).symm, fun parts hparts => ?_⟩
  · rw [hremove]
    rfl
  · rw [hadd, ← hcounter]
    rfl
  · have hg₂ : g₂ = (g.detached o p).written [.nextOperator next, .putOperator n
        (Rules.newOperator (g.detached o p) p.name p.annotations.parameters)] := by
      show (g₁.perform (.addOperator p.name p.annotations.parameters)).graph = _
      rw [hadd, ← hcounter, ← hg₁]
      rfl
    rw [hg₂]
    exact hcons.attemptAll_parts_of_added hkeyed hkeys hp hparts

/-- The knot, with two attributes and a parameter for its first operator. -/
def taggedCalls : List Call :=
  knotCalls ++ [.attach (.operator ⟨0⟩) .inplace, .attach (.operator ⟨0⟩) .elementwise,
    .setParameter (.operator ⟨0⟩) "exact" (.bool true)]

/-- The knot with what its first operator carries. -/
def tagged : Graph := Graph.run ∅ taggedCalls

/-- The first operator of the knot is put together again under the id 2, beginning with what it
writes, and with an attribute in between. -/
theorem run_empty_rewire_tagged :
    ∃ p, tagged.getOperator? ⟨0⟩ = some p ∧
      (tagged.perform (.removeOperator ⟨0⟩)).result = .ok (.removedOperator p) ∧
      ((tagged.after (.removeOperator ⟨0⟩)).after
        (.addOperator p.name p.annotations.parameters)).attemptAll
          [.bindOutput ⟨2⟩ "y" ⟨1⟩, .bindInput ⟨2⟩ "b" ⟨0⟩, .attach (.operator ⟨2⟩) .elementwise,
            .bindInput ⟨2⟩ "c" ⟨1⟩, .attach (.operator ⟨2⟩) .inplace, .bindInput ⟨2⟩ "a" ⟨0⟩] =
        .ok { tagged.rename (Id.replaced ⟨0⟩ ⟨2⟩) with nextOperator := ⟨3⟩ } := by
  unfold tagged
  obtain ⟨p, hp, hparts⟩ : ∃ p, (Graph.run ∅ taggedCalls).getOperator? ⟨0⟩ = some p ∧ p.parts =
      [.tag .elementwise, .tag .inplace, .link .input "a" ⟨0⟩, .link .input "b" ⟨0⟩,
        .link .input "c" ⟨1⟩, .link .output "y" ⟨1⟩] :=
    Option.map_eq_some_iff.1 (by decide +kernel)
  have hnext : (Graph.run ∅ taggedCalls).nextOperator = ⟨2⟩ := by decide +kernel
  have hperm : [.link .output "y" ⟨1⟩, .link .input "b" ⟨0⟩, .tag .elementwise,
      .link .input "c" ⟨1⟩, .tag .inplace, .link .input "a" ⟨0⟩].Perm p.parts := by
    rw [hparts]
    decide
  obtain ⟨hremoved, -, next, hcount, hrewired⟩ :=
    run_empty_rewire taggedCalls ⟨0⟩ p hp (by decide +kernel)
  rw [hnext] at hcount hrewired
  obtain rfl : next = ⟨3⟩ := Id.toNat_inj.1 hcount
  have hreached := hrewired _ hperm
  exact ⟨p, hp, hremoved, hreached⟩

end Graph

end TensorGraph
