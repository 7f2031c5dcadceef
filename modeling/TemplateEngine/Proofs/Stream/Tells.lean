/-
**Writers that tell what a render carries.**

A writer tells what a render carries if both end in one state, with one error if there is one,
and the text that the writer has appended is tied to what the render gives.  The rules here take
the steps of a writer and of a render side by side.

Main definitions and results:

* `Writer.Tells` — a writer that appends what a render carries;
* `Writer.Carried`, `Writer.Splits` — how text and signal are tied to what a render gives;
* `Writer.Tells.bind` — **steps one after another**;
* `Writer.Tells.inScope`, `Writer.Tells.buffered` — scopes and buffers.
-/
import TemplateEngine.Proofs.Stream.Reference

set_option autoImplicit false

namespace TemplateEngine

namespace Writer

variable {α α' β β' : Type} {press : Press} (out : String) (s : State)

/-! ### Running writers -/

theorem runOn_bind (w : Writer α) (f : α → Writer β) :
    (w >>= f).runOn press out s =
      match w.runOn press out s with
      | (.ok (a, more), t) => (f a).runOn press more t
      | (.error e, t) => (.error e, t) := by
  show ExceptT.bindCont (fun r => f r.1 press r.2) (w press out s).1 (w press out s).2 = _
  cases h : w.runOn press out s with
  | mk result t =>
      have h' : w press out s = (result, t) := h
      rw [h']
      cases result <;> rfl

/-- **A writer that appends what a render carries**: both end in one state, and `P` ties the
text, the result of the writer and that of the render together. -/
def Tells (press : Press) (P : String → α → β → Prop) (w : Writer α) (r : Render β) : Prop :=
  ∀ out s, match r.runOn press.surroundings s with
    | (.ok b, t) => ∃ text a, w.runOn press out s = (.ok (a, out ++ text), t) ∧ P text a b
    | (.error e, t) => w.runOn press out s = (.error e, t)

/-- The render gives the text and the signal of the writer. -/
def Carried (text : String) (signal? : Option Signal) (r : String × Option Signal) : Prop :=
  r = (text, signal?)

/-- The value splits into the text and the signal of the writer. -/
def Splits (text : String) (signal? : Option Signal) (v : Value) : Prop :=
  v.split = .ok (text, signal?)

namespace Tells

variable {P P' : String → α → β → Prop} {Q : String → α' → β' → Prop}

/-- **Steps one after another**: their texts stand one behind the other. -/
theorem bind {w : Writer α} {r : Render β} {f : α → Writer α'} {g : β → Render β'}
    (h : Tells press P w r)
    (hf : ∀ text a b, P text a b → Tells press (fun more => Q (text ++ more)) (f a) (g b)) :
    Tells press Q (w >>= f) (r >>= g) := by
  intro out s
  have h := h out s
  rw [Render.runOn_bind, runOn_bind]
  cases hr : r.runOn press.surroundings s with
  | mk result t =>
      rw [hr] at h
      cases result with
      | error e =>
          have h : w.runOn press out s = (.error e, t) := h
          rw [h]
      | ok b =>
          obtain ⟨text, a, hw, hP⟩ := h
          have hnext := hf text a b hP (out ++ text) t
          rw [hw]
          show match (g b).runOn press.surroundings t with
            | (.ok b, t') => ∃ more a', (f a).runOn press (out ++ text) t = _ ∧ Q more a' b
            | (.error e, t') => (f a).runOn press (out ++ text) t = _
          cases hg : (g b).runOn press.surroundings t with
          | mk result' t' =>
              rw [hg] at hnext
              cases result' with
              | error e => exact hnext
              | ok b' =>
                  obtain ⟨more, a', hf', hQ⟩ := hnext
                  rw [String.append_assoc] at hf'
                  exact ⟨text ++ more, a', hf', hQ⟩

theorem pure {a : α} {b : β} (h : P "" a b) : Tells press P (Pure.pure a) (Pure.pure b) := by
  intro out s
  exact ⟨"", a, by rw [String.append_empty]; rfl, h⟩

theorem throw (e : Error) :
    Tells press P (MonadExcept.throw e) (MonadExcept.throw e) := fun _ _ => rfl

theorem mono {w : Writer α} {r : Render β} (h : Tells press P w r)
    (hP : ∀ text a b, P text a b → P' text a b) : Tells press P' w r := by
  intro out s
  have h := h out s
  cases hr : r.runOn press.surroundings s with
  | mk result t =>
      rw [hr] at h
      cases result with
      | error e => exact h
      | ok b =>
          obtain ⟨text, a, hw, hb⟩ := h
          exact ⟨text, a, hw, hP text a b hb⟩

/-- What a render does without writing. -/
theorem eval (r : Render α) : Tells press (fun text a b => text = "" ∧ a = b) (eval r) r := by
  intro out s
  have hw : (Writer.eval r).runOn press out s =
      ((r.runOn press.surroundings s).1.map (·, out), (r.runOn press.surroundings s).2) := rfl
  rw [hw]
  cases r.runOn press.surroundings s with
  | mk result t =>
      cases result with
      | error e => rfl
      | ok a => exact ⟨"", a, by rw [String.append_empty]; rfl, rfl, rfl⟩

/-- A step that writes nothing, before another one. -/
theorem eval_bind {r : Render α} {f : α → Writer α'} {g : α → Render β'}
    (hf : ∀ a, Tells press Q (f a) (g a)) : Tells press Q (Writer.eval r >>= f) (r >>= g) := by
  refine (eval r).bind fun text a b => ?_
  rintro ⟨rfl, rfl⟩
  simpa only [String.empty_append] using hf a

/-- The same with nothing after the step, on the side of the render. -/
theorem eval_last {r : Render α} {f : α → Writer α'} {Q : String → α' → α → Prop}
    (hf : ∀ a, Tells press Q (f a) (Pure.pure a)) : Tells press Q (Writer.eval r >>= f) r := by
  have h := eval_bind (r := r) hf
  rwa [bind_pure] at h

/-- A text that is written, before another step. -/
theorem put_bind (text : String) {f : Unit → Writer α'} {r : Render β'}
    (hf : Tells press (fun more => Q (text ++ more)) (f ()) r) :
    Tells press Q (put text >>= f) r := by
  intro out s
  have h := hf (out ++ text) s
  have hw : (put text >>= f).runOn press out s = (f ()).runOn press (out ++ text) s := rfl
  rw [hw]
  cases hr : r.runOn press.surroundings s with
  | mk result t =>
      rw [hr] at h
      cases result with
      | error e => exact h
      | ok b =>
          obtain ⟨more, a, hf', hQ⟩ := h
          rw [String.append_assoc] at hf'
          exact ⟨text ++ more, a, hf', hQ⟩

/-- A pure step behind the render alone. -/
theorem map {w : Writer α} {r : Render β} {Q : String → α → β' → Prop} (h : Tells press P w r)
    (g : β → β') (hQ : ∀ text a b, P text a b → Q text a (g b)) :
    Tells press Q w (r >>= fun b => Pure.pure (g b)) := by
  intro out s
  have h := h out s
  rw [Render.runOn_bind]
  cases hr : r.runOn press.surroundings s with
  | mk result t =>
      rw [hr] at h
      cases result with
      | error e => exact h
      | ok b =>
          obtain ⟨text, a, hw, hP⟩ := h
          exact ⟨text, a, hw, hQ text a b hP⟩

/-- **A scope is closed on both sides.** -/
theorem inScope (scope : Scope) {w : Writer α} {r : Render β} (h : Tells press P w r) :
    Tells press P (Writer.inScope scope w) (Render.inScope scope r) := by
  intro out s
  have h := h out (s.withInner (scope :: s.context.inner))
  have hw : (Writer.inScope scope w).runOn press out s =
      let o := w.runOn press out (s.withInner (scope :: s.context.inner))
      (o.1, o.2.withInner o.2.context.inner.tail) := rfl
  rw [Render.runOn_inScope, hw]
  cases hr : r.runOn press.surroundings (s.withInner (scope :: s.context.inner)) with
  | mk result t =>
      rw [hr] at h
      cases result with
      | error e =>
          have h : w.runOn press out (s.withInner (scope :: s.context.inner)) = _ := h
          rw [h]
      | ok b =>
          obtain ⟨text, a, hw, hP⟩ := h
          rw [hw]
          exact ⟨text, a, rfl, hP⟩

/-- What goes into a buffer does not go onto the stream. -/
theorem buffered {w : Writer α} {r : Render β} (h : Tells press P w r) :
    Tells press (fun text a b => text = "" ∧ P a.2 a.1 b) (buffered w) r := by
  intro out s
  have h := h "" s
  have hw : (Writer.buffered w).runOn press out s =
      ((w.runOn press "" s).1.map (·, out), (w.runOn press "" s).2) := rfl
  rw [hw]
  cases hr : r.runOn press.surroundings s with
  | mk result t =>
      rw [hr] at h
      cases result with
      | error e =>
          have h : w.runOn press "" s = (.error e, t) := h
          rw [h]
          rfl
      | ok b =>
          obtain ⟨text, a, hw, hP⟩ := h
          rw [String.empty_append] at hw
          rw [hw]
          exact ⟨"", (a, text), by rw [String.append_empty]; rfl, rfl, hP⟩

/-- What a render gives may be split behind it. -/
theorem split {w : Writer (Option Signal)} {r : Render Value} (h : Tells press Splits w r) :
    Tells press Carried w (r >>= Render.split) := by
  intro out s
  have h := h out s
  rw [Render.runOn_bind]
  cases hr : r.runOn press.surroundings s with
  | mk result t =>
      rw [hr] at h
      cases result with
      | error e => exact h
      | ok v =>
          obtain ⟨text, signal?, hw, hv⟩ := h
          simp only [Render.runOn_split _ _ hv]
          exact ⟨text, signal?, hw, rfl⟩

/-- A branch on both sides. -/
theorem ite (c : Prop) [Decidable c] {w w' : Writer (Option Signal)} {r r' : Render Value}
    (h : Tells press Carried w (r >>= Render.split))
    (h' : Tells press Carried w' (r' >>= Render.split)) :
    Tells press Carried (if c then w else w') ((if c then r else r') >>= Render.split) := by
  by_cases hc : c
  · rwa [if_pos hc, if_pos hc]
  · rwa [if_neg hc, if_neg hc]

/-- The end of a tag that gives a text and no signal. -/
theorem ends {P : String → Option Signal → String × Option Signal → Prop} {text : String}
    (h : P "" none (text, none)) :
    Tells press P (Pure.pure none) (Pure.pure (.str text) >>= Render.split) := by
  intro out s
  rw [Render.runOn_bind, Render.runOn_pure]
  simp only [Render.runOn_split _ _ (Value.split_str text)]
  exact ⟨"", none, by rw [String.append_empty]; rfl, h⟩

/-- Nothing is written, and nothing is given. -/
theorem nothing : Tells press Carried (Pure.pure none) (Pure.pure (.str "") >>= Render.split) :=
  ends rfl

end Tells

/-- Appending what a render gives. -/
theorem tells_append (r : Render Value) :
    Tells press Carried (append r) (r >>= Render.split) := by
  refine Tells.eval_bind fun v => Tells.eval_last ?_
  rintro ⟨text, signal?⟩
  refine Tells.put_bind text (Tells.pure ?_)
  rw [String.append_empty]
  rfl

end Writer

end TemplateEngine
