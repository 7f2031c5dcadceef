/-
**Signals stay where they belong.**

With standard tags and filters, in trees that have signals and inclusions only at statements, no
signal ever gets into a variable or an expression.  Where moreover all signals and inclusions
stand inside loops, none of them gets out: loops are where signals end, and nothing else is.

Main results:

* `Engine.watched_node`, `Engine.watched_renderTop` — the watch never sounds the alarm;
* `Engine.signalFree_of_looped`, `Engine.policies_agree` — no signal leaves the loops;
* `Engine.signal_soundness` — **both together**.
-/
import TemplateEngine.Proofs.SignalFree.Placement

set_option autoImplicit false

namespace TemplateEngine

namespace Engine

variable {e : Engine} {s : State}

/-- **A watched render is the plain one**: the watch finds nothing in the tree or in a template. -/
theorem watched_node (he : e.Placed) (now : Moment) (hs : s.SignalFree) (alarm : Render Value)
    {n : Node} (hn : n.isPlaced .free = true) (depth : Nat) :
    (n.observed (.watch alarm) .statement).run.runOn
        (e.observedSurroundings (.watch alarm) now depth) s =
      n.render.runOn (e.surroundings now depth) s ∧
    (n.render.runOn (e.surroundings now depth) s).2.SignalFree := by
  have hT := (Upkeep.signalFree_lawful alarm True).onEngine he now depth
  have hfollows := (hT.part n .statement (fun h => by cases h) hn).run
  obtain ⟨heq, hend⟩ := Upkeep.of_follows hfollows ((Upkeep.good_signalFree_iff _ _ s).2 hs)
  exact ⟨heq, hend.signalFree hs⟩

/-- The same for the nodes at the top of a template. -/
theorem watched_renderTop (he : e.Placed) (now : Moment) (hs : s.SignalFree)
    (alarm : Render Value) {nodes : List Node} (hn : ∀ n ∈ nodes, n.isPlaced .free = true)
    (policy : StrayPolicy) :
    (renderTop policy (Node.observedAll (.watch alarm) (nodes.map fun _ => .statement) nodes)).runOn
        (e.observedSurroundings (.watch alarm) now maxDepth) s =
      e.renderNodes now policy nodes s ∧
    (e.renderNodes now policy nodes s).2.SignalFree := by
  have hT := (Upkeep.signalFree_lawful alarm True).onEngine he now maxDepth
  have hfollows := TwoRuns.Lawful.renderTop policy policy (.inl ⟨rfl, trivial⟩)
    (hT.statements (l := .free) hn)
  obtain ⟨heq, hend⟩ := Upkeep.of_follows hfollows ((Upkeep.good_signalFree_iff _ _ s).2 hs)
  exact ⟨heq, hend.signalFree hs⟩

/-- **A node whose signals all stand inside loops gives no signal.** -/
theorem signalFree_of_looped (he : e.Placed) (now : Moment) (hs : s.SignalFree) {n : Node}
    (hn : n.isPlaced .looped = true) (depth : Nat) :
    Yields (fun v => v.isSignalFree = true) (n.render.runOn (e.surroundings now depth) s).1 := by
  have hT := (Upkeep.signalFree_lawful (pure .nil) True).onEngine he now depth
  have hfollows := (hT.part n .statement (fun h => by cases h) hn).run
  exact (Upkeep.of_follows hfollows ((Upkeep.good_signalFree_iff _ _ s).2 hs)).2.value

/-- **Where all signals stand inside loops the policy for stray signals does not matter**, and no
error tells of one. -/
theorem policies_agree (he : e.Placed) (now : Moment) (hs : s.SignalFree) {nodes : List Node}
    (hn : ∀ n ∈ nodes, n.isPlaced .looped = true) :
    e.renderNodes now .error nodes s = e.renderNodes now .ignore nodes s ∧
    ∀ policy x, (e.renderNodes now policy nodes s).1 = .error x → x.isStray = false := by
  have hT := (Upkeep.signalFree_lawful (pure .nil) False).onEngine he now maxDepth
  have hgood := (Upkeep.good_signalFree_iff (pure .nil) False s).2 hs
  have hsilent : ∀ v, (Upkeep.signalFree (pure .nil) False).values.At .looped v →
      v.isSignal = false := fun v hv => Value.isSignal_of_signalFree hv
  have hrun (policy policy' : StrayPolicy) := Upkeep.of_follows
    (TwoRuns.Lawful.renderTop policy policy' (.inr hsilent) (hT.statements hn)) hgood
  refine ⟨?_, fun policy x hx => ?_⟩
  · -- both are the watched render under the first policy
    exact (hrun .error .error).1.symm.trans (hrun .error .ignore).1
  · cases hstray : x.isStray with
    | false => rfl
    | true => exact ((hrun policy policy).2.stray x hx hstray).elim

/-- **Signal soundness.**  Whatever the alarm would be, watched renders of placed trees are the
plain ones, so no signal is ever bound in a scope or given by an expression.  If all signals and
inclusions stand inside loops, no node at the top gives a signal, under either policy. -/
theorem signal_soundness (he : e.Placed) (now : Moment) (hs : s.SignalFree) :
    (∀ (alarm : Render Value) (n : Node), n.isPlaced .free = true → ∀ depth,
      (n.observed (.watch alarm) .statement).run.runOn
          (e.observedSurroundings (.watch alarm) now depth) s =
        n.render.runOn (e.surroundings now depth) s ∧
      (n.render.runOn (e.surroundings now depth) s).2.SignalFree) ∧
    (∀ (alarm : Render Value) (nodes : List Node), (∀ n ∈ nodes, n.isPlaced .free = true) →
      ∀ policy,
        (renderTop policy
            (Node.observedAll (.watch alarm) (nodes.map fun _ => .statement) nodes)).runOn
            (e.observedSurroundings (.watch alarm) now maxDepth) s =
          e.renderNodes now policy nodes s ∧
        (e.renderNodes now policy nodes s).2.SignalFree) ∧
    (∀ nodes : List Node, (∀ n ∈ nodes, n.isPlaced .looped = true) →
      (∀ n ∈ nodes, ∀ depth,
        Yields (fun v => v.isSignalFree = true) (n.render.runOn (e.surroundings now depth) s).1) ∧
      e.renderNodes now .error nodes s = e.renderNodes now .ignore nodes s ∧
      ∀ policy x, (e.renderNodes now policy nodes s).1 = .error x → x.isStray = false) := by
  refine ⟨fun alarm n hn depth => watched_node he now hs alarm hn depth,
    fun alarm nodes hn policy => watched_renderTop he now hs alarm hn policy,
    fun nodes hn => ⟨fun n hmem depth => ?_, policies_agree he now hs hn⟩⟩
  exact signalFree_of_looped he now hs (hn n hmem) depth

/-- An engine with a template that breaks off the loop around it. -/
def breaking : Engine :=
  { Engine.new {} with templates := Table.ofList [("leave", .signal .break)] }

/-- A loop that is left through that template, behind a text in a branch. -/
def branchingLoop : Node :=
  .tag (.ofStandard .for)
    [.literal (.str "x"), .literal (.list [.int 1, .int 2]),
      .tag (.ofStandard .if)
        [.lookup "x" [], .block [.text "turn", .tag (.ofStandard .include) [.text "leave"]]]]

/-- The loop gives no signal, and a watch that throws is not heard. -/
theorem signal_soundness_branchingLoop :
    (breaking.Placed ∧ branchingLoop.isPlaced .looped = true ∧
      branchingLoop.isPlaced .free = true) ∧
    (branchingLoop.observed (.watch (throw .placeholder)) .statement).run.runOn
        (breaking.observedSurroundings (.watch (throw .placeholder)) default 1)
        (breaking.start (.ofVariables ∅) ∅) =
      branchingLoop.render.runOn (breaking.surroundings default 1)
        (breaking.start (.ofVariables ∅) ∅) ∧
    breaking.renderNodes default .error [branchingLoop] (breaking.start (.ofVariables ∅) ∅) =
      breaking.renderNodes default .ignore [branchingLoop] (breaking.start (.ofVariables ∅) ∅) := by
  have he : breaking.Placed := by
    intro name n hn
    obtain ⟨-, rfl⟩ := Prod.mk.inj (List.mem_singleton.1 (mem_of_findTemplate rfl hn))
    rfl
  have hs : (breaking.start (.ofVariables ∅) ∅).SignalFree :=
    ⟨rfl, fun name f hf => isStandard_of_get hf⟩
  have hlooped : branchingLoop.isPlaced .looped = true := by decide
  have hfree : branchingLoop.isPlaced .free = true := by decide
  obtain ⟨hnode, -, hnodes⟩ := signal_soundness he default hs
  have hmem : ∀ n ∈ [branchingLoop], n.isPlaced .looped = true := by
    intro n hn
    rw [List.mem_singleton.1 hn]
    exact hlooped
  have hwatched := (hnode (throw .placeholder) branchingLoop hfree 1).1
  have hpolicies := (hnodes [branchingLoop] hmem).2.1
  exact ⟨⟨he, hlooped, hfree⟩, hwatched, hpolicies⟩

/-- The watch is heard where an expression gives a signal: this one is about to be assigned. -/
example : ((Node.observed (.watch (throw .placeholder)) .statement
    (.tag (.ofStandard .assign) [.text "x", .signal .break])).run.runOn
      ((Engine.new {}).observedSurroundings (.watch (throw .placeholder)) default 1)
      ((Engine.new {}).start (.ofVariables ∅) ∅)).1 = .error .placeholder := rfl

end Engine

end TemplateEngine
