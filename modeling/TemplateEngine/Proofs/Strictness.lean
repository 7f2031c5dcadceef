/-
**A stricter engine only adds errors.**

An engine may refuse undefined variables, and it may refuse signals at the top of a template.
Nothing in a render catches such an error and goes on, so a render that the stricter engine
completes is the same render in the laxer one.

Main definitions and results:

* `Config.AsStrictAs` — one configuration is at least as strict as another one;
* `Error.isStrict` — the errors that only a strict engine reports;
* `Engine.render_withConfig` — **an outcome without such an error is that of the laxer engine**;
* `Engine.strictness_only_adds_errors` — texts stay, and failures of the laxer engine stay, too.
-/
import TemplateEngine.Proofs.TwoRuns.Twins

set_option autoImplicit false

namespace TemplateEngine

/-- The first configuration is at least as strict as the second one. -/
structure Config.AsStrictAs (c c' : Config) : Prop where
  strictVariables : c'.strictVariables = true → c.strictVariables = true
  straySignal : c'.straySignal = .error → c.straySignal = .error

/-- Whether only a strict engine reports an error of this kind. -/
def Error.isStrict : Error → Bool
  | .undefinedVariable _ => true
  | .straySignal _ => true
  | _ => false

namespace Config.AsStrictAs

variable {c c' : Config}

/-- If the two modes for variables differ, the first one is strict. -/
theorem modes (h : c.AsStrictAs c') : c.strictVariables = c'.strictVariables ∨
    (c.strictVariables = true ∧
      ∀ name, ¬ (Error.undefinedVariable name).isStrict = false) := by
  cases hc : c.strictVariables with
  | true => exact .inr ⟨rfl, fun name hname => by cases hname⟩
  | false =>
      cases hc' : c'.strictVariables with
      | false => exact .inl rfl
      | true =>
          rw [h.strictVariables hc'] at hc
          cases hc

/-- If the two policies for stray signals differ, the first one refuses them. -/
theorem policies (h : c.AsStrictAs c') : c.straySignal = c'.straySignal ∨
    (c.straySignal = .error ∧ ∀ s, ¬ (Error.straySignal s).isStrict = false) := by
  cases hc : c.straySignal with
  | error => exact .inr ⟨rfl, fun s hs => by cases hs⟩
  | ignore =>
      cases hc' : c'.straySignal with
      | ignore => exact .inl rfl
      | error =>
          rw [h.straySignal hc'] at hc
          cases hc

end Config.AsStrictAs

namespace Engine

/-- The engine with another configuration. -/
def withConfig (e : Engine) (c : Config) : Engine := { e with config := c }

variable {e : Engine} {c c' : Config} {t : Template}

/-- Nodes at the top: what the stricter engine does without an error of a strict one, the laxer
engine does as well. -/
theorem renderNodes_withConfig (hc : c.AsStrictAs c') (he : e.MadeOf fun _ => true) (now : Moment)
    {nodes : List Node} (hn : ∀ n ∈ nodes, n.isMadeOf (fun _ => true) = true) {s : State}
    (hlax : ∀ x, ((e.withConfig c).renderNodes now c.straySignal nodes s).1 = .error x →
      x.isStrict = false) :
    (e.withConfig c').renderNodes now c'.straySignal nodes s =
      (e.withConfig c).renderNodes now c.straySignal nodes s := by
  have he : (e.withConfig c).MadeOf fun _ => true := he
  have htemplates : (e.withConfig c').templates = (e.withConfig c).templates := rfl
  have hT := TwoRuns.Indistinct.eq.onEngines (fun x => x.isStrict = false) he htemplates hc.modes 0
    (fun _ => rfl) now maxDepth
  exact TwoRuns.twins_runOn_eq (hT.unwatched_top rfl ⟨trivial, hc.policies⟩ (l := .free) hn) hlax

/-- **An outcome without an error of a strict engine is the outcome of the laxer engine**, too. -/
theorem render_withConfig (hc : c.AsStrictAs c') (he : e.MadeOf fun _ => true) (now : Moment)
    (ht : ∀ n ∈ t.nodes, n.isMadeOf (fun _ => true) = true) {s : State}
    (hlax : ∀ x, ((e.withConfig c).renderConfigured now t s).1 = .error x → x.isStrict = false) :
    (e.withConfig c').renderConfigured now t s = (e.withConfig c).renderConfigured now t s := by
  unfold renderConfigured render at hlax ⊢
  split at hlax
  · exact renderNodes_withConfig hc he now ht hlax
  · rfl
  · exact renderNodes_withConfig hc he now ht hlax

/-- **A stricter configuration only adds errors.**  A text of the stricter engine is the text of
the laxer one, in the same state; where the laxer engine fails the stricter one fails, too; and an
error of the stricter engine that is none of a strict engine is that of the laxer one. -/
theorem strictness_only_adds_errors (hc : c.AsStrictAs c') (he : e.MadeOf fun _ => true)
    (now : Moment) (ht : ∀ n ∈ t.nodes, n.isMadeOf (fun _ => true) = true) (s : State) :
    (∀ text s', (e.withConfig c).renderConfigured now t s = (.ok text, s') →
      (e.withConfig c').renderConfigured now t s = (.ok text, s')) ∧
    (∀ x s', (e.withConfig c').renderConfigured now t s = (.error x, s') →
      ∃ y s'', (e.withConfig c).renderConfigured now t s = (.error y, s'')) ∧
    (∀ x s', (e.withConfig c).renderConfigured now t s = (.error x, s') → x.isStrict = false →
      (e.withConfig c').renderConfigured now t s = (.error x, s')) := by
  have hsame := render_withConfig (s := s) hc he now ht
  have htext : ∀ text s', (e.withConfig c).renderConfigured now t s = (.ok text, s') →
      (e.withConfig c').renderConfigured now t s = (.ok text, s') := by
    intro text s' hstrict
    rw [hstrict] at hsame
    exact hsame fun x hx => by cases hx
  refine ⟨htext, fun x s' hlax => ?_, fun x s' hstrict hx => ?_⟩
  · cases hstrict : (e.withConfig c).renderConfigured now t s with
    | mk result s'' =>
        cases result with
        | error y => exact ⟨y, s'', rfl⟩
        | ok text =>
            -- then the laxer engine would give that text
            rw [htext text s'' hstrict] at hlax
            cases hlax
  · rw [hstrict] at hsame
    exact hsame fun y hy => by cases hy; exact hx

/-- A loop that is left by a signal, behind the variable of the loop. -/
def leftLoop : Node :=
  .tag (.ofStandard .for)
    [.text "x", .literal (.list [.str "a", .str "b"]),
      .block [.lookup "x" [], .tag (.ofStandard .assign) [.text "y", .lookup "x" []],
        .signal .break]]

/-- No variable is undefined in that loop and no signal leaves it, so the mode does not matter. -/
theorem strictness_only_adds_errors_leftLoop :
    Config.AsStrictAs ⟨.error, true⟩ {} ∧ ((Engine.new {}).MadeOf fun _ => true) ∧
      leftLoop.isMadeOf (fun _ => true) = true ∧
      (((Engine.new {}).withConfig {}).renderConfigured default (.row [leftLoop])
        ((Engine.new {}).start (.ofVariables ∅) ∅)).1 = .ok "a" ∧
      (((Engine.new {}).withConfig {}).renderConfigured default (.row [leftLoop])
        ((Engine.new {}).start (.ofVariables ∅) ∅)).2.context.root.find? "y" = some (.str "a") := by
  have hc : Config.AsStrictAs ⟨.error, true⟩ {} := ⟨fun _ => rfl, fun _ => rfl⟩
  have he : (Engine.new {}).MadeOf fun _ => true := fun name n hn => by cases hn
  have hloop : leftLoop.isMadeOf (fun _ => true) = true := rfl
  have hmem : ∀ n ∈ (Template.row [leftLoop]).nodes, n.isMadeOf (fun _ => true) = true := by
    intro n hn
    rw [List.mem_singleton.1 hn]
    exact hloop
  have hlax := (strictness_only_adds_errors hc he default hmem
    ((Engine.new {}).start (.ofVariables ∅) ∅)).1 "a" _ rfl
  rw [hlax]
  exact ⟨hc, he, hloop, rfl, rfl⟩

/-- Where the mode does matter, only the stricter engine fails. -/
example :
    (((Engine.new {}).withConfig ⟨.error, true⟩).renderConfigured default (.single (.lookup "x" []))
        ((Engine.new {}).start (.ofVariables ∅) ∅)).1 = .error (.undefinedVariable "x") ∧
      (((Engine.new {}).withConfig {}).renderConfigured default (.single (.lookup "x" []))
        ((Engine.new {}).start (.ofVariables ∅) ∅)).1 = .ok "" := ⟨rfl, rfl⟩

end Engine

end TemplateEngine
