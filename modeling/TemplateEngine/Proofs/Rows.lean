/-
**Rows inside rows.**

Blocks and `raw` tags render their children in a row, up to the first signal.  A row that stands in
another one hands on its text, or its signal with the text before it; the outer row takes this apart
and puts its own text in front.  What the inner row has put together is what the outer one takes
apart, since a signal without text is always a bare one.  So **the marks of an inner row may be
left out**: its children do the same in its place.  And behind a signal nothing is rendered, so
that it does not matter what stands there.

Main definitions and results:

* `Render.continueRow` — how a row goes on behind a text or a signal;
* `renderSequenceFrom_append` — **a row in two pieces**: the second goes on behind the first;
* `Row` — blocks and `raw` tags;
* `Row.nesting_is_transparent` — **a row inside a row is transparent, and what stands behind a signal is dead**.
-/
import TemplateEngine.Proofs.Propagation.Stack

set_option autoImplicit false

namespace TemplateEngine

/-! ### A row in two pieces -/

/-- How a row goes on behind a part with a given text, perhaps with a signal behind it. -/
def Render.continueRow (written : String) (rest : List Part) :
    String × Option Signal → Render Value
  | (text, some s) => pure (.interrupt (written ++ text) s)
  | (text, none) => renderSequenceFrom (written ++ text) rest

/-- What is put together from a text and a signal is taken apart into them. -/
theorem Render.split_interrupt (text : String) (s : Signal) :
    Render.split (.interrupt text s) = pure (text, some s) := by
  rw [Render.split, Value.split_interrupt]
  rfl

theorem Render.split_str (text : String) : Render.split (.str text) = pure (text, none) := by
  rw [Render.split, Value.split_str]
  rfl

/-- A row renders its first part and goes on behind it. -/
theorem renderSequenceFrom_cons (written : String) (p : Part) (rest : List Part) :
    renderSequenceFrom written (p :: rest) =
      p.run >>= Render.split >>= Render.continueRow written rest := by
  rw [renderSequenceFrom, bind_assoc]
  congr 1
  funext v
  congr 1
  funext r
  obtain ⟨text, _ | s⟩ := r <;> rfl

/-- **A row in two pieces.**  The second piece goes on behind what the first one gives, which the
text written before either of them is put in front of. -/
theorem renderSequenceFrom_append (before written : String) (ps qs : List Part) :
    renderSequenceFrom (before ++ written) (ps ++ qs) =
      renderSequenceFrom written ps >>= Render.split >>= Render.continueRow before qs := by
  induction ps generalizing written with
  | nil =>
      rw [List.nil_append, renderSequenceFrom, pure_bind, Render.split_str, pure_bind,
        Render.continueRow]
  | cons p rest ih =>
      rw [List.cons_append, renderSequenceFrom_cons, renderSequenceFrom_cons]
      simp only [bind_assoc]
      congr 1
      funext v
      congr 1
      funext r
      -- a signal ends both rows, and without one the induction hypothesis takes over
      obtain ⟨text, _ | s⟩ := r
      · simp only [Render.continueRow, String.append_assoc, ih, bind_assoc]
      · simp only [Render.continueRow, String.append_assoc, pure_bind, Render.split_interrupt]

section Pieces

variable {p : Part} {ps qs : List Part}

/-- **A part that is a row may be left out for its parts.** -/
theorem renderSequenceFrom_of_row (hp : p.run = renderSequence ps) (written : String)
    (rest : List Part) :
    renderSequenceFrom written (p :: rest) = renderSequenceFrom written (ps ++ rest) := by
  have happend := renderSequenceFrom_append written "" ps rest
  rw [String.append_empty] at happend
  rw [renderSequenceFrom_cons, hp, renderSequence, happend]

/-- **Behind a signal nothing is rendered.** -/
theorem renderSequenceFrom_of_signal {s : Signal} (hp : p.run = pure (.signal s))
    (written : String) (rest : List Part) :
    renderSequenceFrom written (p :: rest) = pure (.interrupt written s) := by
  have hsplit : Render.split (.signal s) = pure ("", some s) := rfl
  rw [renderSequenceFrom_cons, hp, pure_bind, hsplit, pure_bind, Render.continueRow,
    String.append_empty]

/-- Rows that go on alike behind every text are alike behind the same parts. -/
theorem renderSequence_append_congr (h : ∀ w, renderSequenceFrom w ps = renderSequenceFrom w qs)
    (before : List Part) : renderSequence (before ++ ps) = renderSequence (before ++ qs) := by
  have hcontinue : Render.continueRow "" ps = Render.continueRow "" qs := by
    funext r
    obtain ⟨text, _ | s⟩ := r
    · exact h _
    · rfl
  have happend (rest : List Part) := renderSequenceFrom_append "" "" before rest
  rw [String.append_empty] at happend
  rw [renderSequence, renderSequence, happend, happend, hcontinue]

end Pieces

/-! ### Blocks and `raw` tags -/

/-- **What makes a row of nodes**: a block, or a tag with the name of `t` and the body of `raw`. -/
inductive Row where
  | block
  | raw (t : Tag)

namespace Row

/-- The node that is a row of children. -/
def node : Row → List Node → Node
  | block, children => .block children
  | raw t, children => .tag (t.as .raw) children

/-- Blocks and `raw` tags render alike. -/
theorem render_node (row : Row) (children : List Node) :
    (row.node children).render = renderSequence (children.map Node.part) := by
  rw [← Node.parts_eq_map]
  cases row with
  | block => exact Node.render_block children
  | raw t => exact Node.render_tag (t.as .raw) children

/-- **A row inside a row is transparent, and what stands behind a signal is dead.**  In every
surroundings and every state,

* a row with another row among its children does what it does with the children of that row in its
  place: it gives the same text, the same signal with the same text before it, or the same error,
  and leaves the same state;
* a row with a signal among its children does the same whatever stands behind the signal.

Each of the rows may be a block or a `raw` tag. -/
theorem nesting_is_transparent (outer inner flat : Row) (xs ys zs : List Node)
    (env : Surroundings) (s : State) :
    (outer.node (xs ++ inner.node ys :: zs)).render.runOn env s =
        (flat.node (xs ++ ys ++ zs)).render.runOn env s ∧
      ∀ signal, (outer.node (xs ++ .signal signal :: ys)).render.runOn env s =
        (flat.node (xs ++ .signal signal :: zs)).render.runOn env s := by
  constructor
  · have hrow (w : String) : renderSequenceFrom w ((inner.node ys :: zs).map Node.part) =
        renderSequenceFrom w ((ys ++ zs).map Node.part) := by
      rw [List.map_cons, List.map_append, renderSequenceFrom_of_row (inner.render_node ys)]
    rw [render_node, render_node, List.append_assoc, List.map_append, List.map_append,
      renderSequence_append_congr hrow]
  · intro signal
    have hdead (w : String) : renderSequenceFrom w ((.signal signal :: ys).map Node.part) =
        renderSequenceFrom w ((.signal signal :: zs).map Node.part) := by
      rw [List.map_cons, List.map_cons, renderSequenceFrom_of_signal (Node.render_signal signal),
        renderSequenceFrom_of_signal (Node.render_signal signal)]
    rw [render_node, render_node, List.map_append, List.map_append,
      renderSequence_append_congr hdead]

end Row

end TemplateEngine
