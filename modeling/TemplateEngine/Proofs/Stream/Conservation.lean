/-
**No text is lost or doubled.**

Rendering carries text in three shapes: as a value, as nothing before a bare signal, and as the
text of an interrupted one.  A writer does not: it appends.  Both do the same: whatever the tree,
the engine and the state, the text and the signal that a render comes to are those of the writer,
with the same variables and cycles at the end; and where one fails so does the other, with the
same error in the same state.

Main results:

* `Writer.tells_row`, `Writer.tells_captureTag`, `Writer.tells_turns`, `Writer.tells_cells` — rows,
  captures and loops;
* `Node.tells_write` — **trees**, by induction with one case for each kind of node;
* `Engine.faithful_press` — templates, by induction on the depth of inclusions;
* `Engine.text_conserved` — **the conservation of text**, for nodes and for engines.
-/
import TemplateEngine.Proofs.Stream.Tells

set_option autoImplicit false

namespace TemplateEngine

namespace Writer

variable {α β : Type} {press : Press}

/-! ### Rows and branches -/

/-- A piece writes what its part carries. -/
def Sound (press : Press) (p : Piece) : Prop :=
  Tells press Carried p.write (p.part.run >>= Render.split)

/-- Pieces in a row behind a text that the render carries along. -/
theorem tells_rowFrom {pieces : List Piece} (h : ∀ p ∈ pieces, Sound press p) : ∀ written,
    Tells press (fun text signal? v => Splits (written ++ text) signal? v) (row pieces)
      (renderSequenceFrom written (pieces.map Piece.part)) := by
  induction pieces with
  | nil =>
      intro written
      refine Tells.pure ?_
      rw [String.append_empty]
      exact Value.split_str written
  | cons p rest ih =>
      intro written
      have hp := h p List.mem_cons_self
      rw [List.map_cons, renderSequenceFrom, ← Render.bind_bind]
      refine hp.bind fun text signal? r hr => ?_
      obtain rfl : r = (text, signal?) := hr
      cases signal? with
      | some s =>
          refine Tells.pure ?_
          rw [String.append_empty]
          exact Value.split_interrupt (written ++ text) s
      | none =>
          have hrest := ih (fun q hq => h q (List.mem_cons_of_mem _ hq)) (written ++ text)
          refine hrest.mono fun more signal? v hv => ?_
          rwa [String.append_assoc] at hv

/-- **A row writes what it carries.** -/
theorem tells_row {pieces : List Piece} (h : ∀ p ∈ pieces, Sound press p) :
    Tells press Carried (row pieces)
      (renderSequence (pieces.map Piece.part) >>= Render.split) := by
  refine Tells.split ((tells_rowFrom h "").mono fun text signal? v hv => ?_)
  rwa [String.empty_append] at hv

theorem tells_branch : ∀ {pieces : List Piece}, (∀ p ∈ pieces, Sound press p) →
    Tells press Carried (branch pieces)
      (Tags.chooseBranch (pieces.map Piece.part) >>= Render.split)
  | [], _ => Tells.nothing
  | [_], _ => Tells.nothing
  | condition :: body :: rest, h => by
      rw [List.map_cons, List.map_cons, Tags.chooseBranch, Render.bind_bind]
      refine Tells.eval_bind fun v => ?_
      have hbody := h body (List.mem_cons_of_mem _ List.mem_cons_self)
      have hrest := tells_branch fun q hq =>
        h q (List.mem_cons_of_mem _ (List.mem_cons_of_mem _ hq))
      exact Tells.ite _ hbody hrest

theorem tells_ifTag {pieces : List Piece} (h : ∀ p ∈ pieces, Sound press p) :
    Tells press Carried (ifTag pieces)
      (Tags.ifTag (pieces.map Piece.part) >>= Render.split) := by
  rw [Tags.ifTag, Render.bind_bind]
  exact Tells.eval_bind fun _ => tells_branch h

theorem tells_unlessTag {pieces : List Piece} (h : ∀ p ∈ pieces, Sound press p) :
    Tells press Carried (unlessTag pieces)
      (Tags.unlessTag (pieces.map Piece.part) >>= Render.split) := by
  unfold Tags.unlessTag
  rw [Render.bind_bind]
  refine Tells.eval_bind fun _ => ?_
  match pieces, h with
  | [], _ => exact Tells.nothing
  | [_], _ => exact Tells.nothing
  | condition :: body :: rest, h =>
      simp only [List.map_cons, Render.bind_bind]
      refine Tells.eval_bind fun v => ?_
      have hbody := h body (List.mem_cons_of_mem _ List.mem_cons_self)
      have hrest := tells_branch fun q hq =>
        h q (List.mem_cons_of_mem _ (List.mem_cons_of_mem _ hq))
      exact Tells.ite _ hrest hbody

theorem tells_candidate (subject : Value) : ∀ {pieces : List Piece},
    (∀ p ∈ pieces, Sound press p) → Tells press Carried (candidate subject pieces)
      (Tags.chooseCase subject (pieces.map Piece.part) >>= Render.split)
  | [], _ => Tells.nothing
  | [otherwise], h => h otherwise List.mem_cons_self
  | value :: body :: rest, h => by
      rw [List.map_cons, List.map_cons, Tags.chooseCase, Render.bind_bind]
      refine Tells.eval_bind fun v => ?_
      have hbody := h body (List.mem_cons_of_mem _ List.mem_cons_self)
      have hrest := tells_candidate subject fun q hq =>
        h q (List.mem_cons_of_mem _ (List.mem_cons_of_mem _ hq))
      exact Tells.ite _ hbody hrest

theorem tells_caseTag {pieces : List Piece} (h : ∀ p ∈ pieces, Sound press p) :
    Tells press Carried (caseTag pieces)
      (Tags.caseTag (pieces.map Piece.part) >>= Render.split) := by
  cases pieces with
  | nil => exact Tells.nothing
  | cons subject rest =>
      rw [List.map_cons, Tags.caseTag, Render.bind_bind]
      exact Tells.eval_bind fun v =>
        tells_candidate v fun p hp => h p (List.mem_cons_of_mem _ hp)

/-! ### Inclusion and capture -/

/-- What is told at one press may be told at another one. -/
theorem Tells.elsewhere (press' : Press) {w : Writer (Option Signal)} {r : Render Value}
    (h : Tells press Carried w (r >>= Render.split)) :
    Tells press' Carried (ofFunction fun _ out s => w.runOn press out s)
      (Render.ofFunction (fun _ s => r.runOn press.surroundings s) >>= Render.split) := by
  intro out s
  have h := h out s
  rw [Render.runOn_bind] at h ⊢
  exact h

/-- **The templates of a press write what those of its surroundings carry.** -/
def Faithful (press : Press) : Prop :=
  ∀ name, match press.surroundings.template name with
    | .ok run => ∃ write, press.template name = .ok write ∧
        Tells press Carried (ofFunction fun _ out s => write out s)
          (Render.ofFunction (fun _ s => run s) >>= Render.split)
    | .error e => press.template name = .error e

/-- Looking up a template and going on with it. -/
theorem tells_findTemplate (hpress : Faithful press) (name : String)
    {P : String → α → β → Prop} {f : Writer (Option Signal) → Writer α}
    {g : Render Value → Render β}
    (h : ∀ w r, Tells press Carried w (r >>= Render.split) → Tells press P (f w) (g r)) :
    Tells press P (findTemplate name >>= f) (Render.findTemplate name >>= g) := by
  intro out s
  have hname := hpress name
  have hfind : (findTemplate name).runOn press out s =
      ((press.template name).map fun write => (ofFunction fun _ out s => write out s, out), s) :=
    rfl
  rw [runOn_bind, hfind, Render.runOn_bind, Render.runOn_findTemplate]
  cases hrun : press.surroundings.template name with
  | ok run =>
      rw [hrun] at hname
      obtain ⟨write, hwrite, htells⟩ := hname
      rw [hwrite]
      exact h _ _ htells out s
  | error e =>
      rw [hrun] at hname
      have hname : press.template name = .error e := hname
      rw [hname]
      rfl

/-- Splitting does not look at the scopes. -/
theorem inScope_split (scope : Scope) (r : Render Value) :
    Render.inScope scope r >>= Render.split = Render.inScope scope (r >>= Render.split) := by
  funext env s
  show (Render.inScope scope r >>= Render.split).runOn env s =
    (Render.inScope scope (r >>= Render.split)).runOn env s
  rw [Render.runOn_bind, Render.runOn_inScope, Render.runOn_inScope, Render.runOn_bind]
  cases r.runOn env (s.withInner (scope :: s.context.inner)) with
  | mk result t =>
      cases result with
      | error e => rfl
      | ok v => rfl

/-- A template in place, under its scope. -/
theorem tells_inScope (scope : Scope) {w : Writer (Option Signal)} {r : Render Value}
    (h : Tells press Carried w (r >>= Render.split)) :
    Tells press Carried (inScope scope w) (Render.inScope scope r >>= Render.split) := by
  rw [inScope_split]
  exact h.inScope scope

theorem tells_includeTag (hpress : Faithful press) (pieces : List Piece) :
    Tells press Carried (includeTag pieces)
      (Tags.includeTag (pieces.map Piece.part) >>= Render.split) := by
  match pieces with
  | [] => exact Tells.throw _
  | [name] =>
      simp only [List.map_cons, List.map_nil, Tags.includeTag, Render.bind_bind]
      refine Tells.eval_bind fun template => tells_findTemplate hpress template fun w r h => ?_
      exact tells_inScope ∅ h
  | name :: value :: _ =>
      simp only [List.map_cons, Tags.includeTag, Render.bind_bind]
      refine Tells.eval_bind fun template => tells_findTemplate hpress template fun w r h => ?_
      exact Tells.eval_bind fun v => tells_inScope _ h

/-- What a capture does with the value of its body. -/
def bindText (target : String) (v : Value) : Render Value := do
  if v.isSignal then return v
  else
    let text ← Render.text v
    Render.assign target (.str text)
    return .str ""

/-- What a capture does with the text and the signal of its body. -/
def bindSplit (target : String) (r : String × Option Signal) : Render (String × Option Signal) :=
  match r.2 with
  | some s => return (r.1, some s)
  | none => do
      Render.assign target (.str r.1)
      return ("", none)

theorem captureTag_cons (name body : Part) (rest : List Part) :
    Tags.captureTag (name :: body :: rest) =
      name.text >>= fun target => body.run >>= bindText target := rfl

/-- **A capture may take its body apart before it looks for a signal.** -/
theorem bindText_split (target : String) (v : Value) :
    bindText target v >>= Render.split = Render.split v >>= bindSplit target := by
  cases hv : v.isSignal with
  | true =>
      cases v with
      | signal s => rfl
      | interrupted t s => rfl
      | _ => cases hv
  | false =>
      funext env s
      have hsplit := Value.split_of_not_isSignal hv
      show (bindText target v >>= Render.split).runOn env s =
        (Render.split v >>= bindSplit target).runOn env s
      rw [bindText, hv, Render.split, hsplit]
      simp only [Bool.false_eq_true, if_false, Render.bind_bind, Render.text]
      cases v.text with
      | ok text => rfl
      | error f => rfl

theorem tells_captureTag {pieces : List Piece} (h : ∀ p ∈ pieces, Sound press p) :
    Tells press Carried (captureTag pieces)
      (Tags.captureTag (pieces.map Piece.part) >>= Render.split) := by
  match pieces, h with
  | [], _ => exact Tells.throw _
  | [name], _ =>
      simp only [List.map_cons, List.map_nil, Tags.captureTag, Render.bind_bind]
      exact Tells.eval_bind fun _ => Tells.throw _
  | name :: body :: _, h =>
      have hbody := h body (List.mem_cons_of_mem _ List.mem_cons_self)
      rw [List.map_cons, List.map_cons, captureTag_cons, Render.bind_bind]
      refine Tells.eval_bind fun target => ?_
      simp only [Render.bind_bind, bindText_split]
      rw [← Render.bind_bind]
      refine hbody.buffered.bind ?_
      rintro _ ⟨signal?, text⟩ r ⟨rfl, hr⟩
      obtain rfl : r = (text, signal?) := hr
      cases signal? with
      | some s =>
          refine Tells.put_bind text (Tells.pure ?_)
          rw [String.append_empty, String.empty_append]
          rfl
      | none =>
          exact Tells.eval_bind fun _ => Tells.pure rfl

/-! ### Loops -/

/-- The pieces that are no attributes are those of the parts that are none. -/
theorem part_positional (pieces : List Piece) :
    (positional pieces).map Piece.part = Tags.positional (pieces.map Piece.part) := by
  rw [positional, Tags.positional, List.filter_map]
  rfl

/-- A body writes the text of its turn, and leaves at a break. -/
theorem tells_runBody {body : Piece} (h : Sound press body) :
    Tells press (fun text signal? r => r = (text, decide (signal? = some .break))) body.write
      (Tags.runBody body.part) := by
  have hbody := h.map (fun r => (r.1, decide (r.2 = some Signal.break)))
    (Q := fun text signal? r => r = (text, decide (signal? = some .break)))
    fun text signal? r hr => by rw [show r = (text, signal?) from hr]
  rwa [Render.bind_bind] at hbody

/-- **The turns of a loop write in place what it puts together.** -/
theorem tells_turns {body : Piece} (hbody : Sound press body) (name : String) (length : Nat)
    {items : List Value} : ∀ index : Nat,
      Tells press (fun text _ t => t = text) (turns name length body index items)
        (Tags.forTurns name length body.part index items) := by
  induction items with
  | nil => exact fun _ => Tells.pure rfl
  | cons item rest ih =>
      intro index
      rw [turns, Tags.forTurns]
      refine Tells.eval_bind fun _ => Tells.eval_bind fun _ => ?_
      refine (tells_runBody hbody).bind fun text signal? r hr => ?_
      obtain rfl := hr
      by_cases hbreak : signal? = some .break
      · simp only [hbreak, decide_true, if_true]
        exact Tells.pure (String.append_empty).symm
      · simp only [hbreak, decide_false, if_false, Bool.false_eq_true]
        exact (ih (index + 1)).map _ fun more _ others ho => by rw [ho]

theorem tells_forTag {pieces : List Piece} (h : ∀ p ∈ pieces, Sound press p) :
    Tells press Carried (forTag pieces)
      (Tags.forTag (pieces.map Piece.part) >>= Render.split) := by
  have hpos : ∀ p ∈ positional pieces, Sound press p := fun p hp => h p (List.mem_filter.1 hp).1
  unfold forTag Tags.forTag
  rw [← part_positional]
  match positional pieces, hpos with
  | [], _ => exact Tells.throw _
  | [_], _ => exact Tells.throw _
  | [_, _], _ => exact Tells.throw _
  | binder :: collection :: body :: _, hpos =>
      have hbody := hpos body (List.mem_cons_of_mem _ (List.mem_cons_of_mem _ List.mem_cons_self))
      simp only [List.map_cons, Render.bind_bind]
      refine Tells.eval_bind fun name => Tells.eval_bind fun items => ?_
      refine ((tells_turns hbody name _ 0).inScope ∅).bind fun text _ t ht => ?_
      obtain rfl := ht
      refine Tells.ends ?_
      rw [String.append_empty]
      rfl

/-- **The cells of a row write in place what it puts together**, their marks included. -/
theorem tells_cells {body : Piece} (hbody : Sound press body) (name : String) (length cols : Nat)
    {items : List Value} : ∀ index row col : Nat,
      Tells press (fun text _ t => t = text) (cells name length cols body index row col items)
        (Tags.rowTurns name length cols body.part index row col items) := by
  induction items with
  | nil => exact fun _ _ _ => Tells.pure rfl
  | cons item rest ih =>
      intro index row col
      rw [cells, Tags.rowTurns]
      refine Tells.eval_bind fun _ => Tells.eval_bind fun _ => Tells.put_bind _ ?_
      refine (tells_runBody hbody).bind fun text signal? r hr => Tells.put_bind _ ?_
      obtain rfl := hr
      by_cases hbreak : signal? = some .break
      · simp only [hbreak, decide_true, if_true]
        refine Tells.pure ?_
        rw [String.append_empty, String.append_assoc]
      · simp only [hbreak, decide_false, if_false, Bool.false_eq_true]
        by_cases hrow : col = cols ∧ index + 1 ≠ length
        · simp only [if_pos hrow]
          refine Tells.put_bind _ ((ih (index + 1) (row + 1) 1).map _ fun more _ others ho => ?_)
          rw [ho]
          simp only [String.append_assoc]
        · simp only [if_neg hrow]
          refine (ih (index + 1) row (col + 1)).map _ fun more _ others ho => ?_
          rw [ho]
          simp only [String.append_assoc]

theorem tells_tablerowTag {pieces : List Piece} (h : ∀ p ∈ pieces, Sound press p) :
    Tells press Carried (tablerowTag pieces)
      (Tags.tablerowTag (pieces.map Piece.part) >>= Render.split) := by
  have hpos : ∀ p ∈ positional pieces, Sound press p := fun p hp => h p (List.mem_filter.1 hp).1
  unfold tablerowTag Tags.tablerowTag
  rw [← part_positional]
  match positional pieces, hpos with
  | [], _ => exact Tells.throw _
  | [_], _ => exact Tells.throw _
  | [_, _], _ => exact Tells.throw _
  | binder :: collection :: body :: _, hpos =>
      have hbody := hpos body (List.mem_cons_of_mem _ (List.mem_cons_of_mem _ List.mem_cons_self))
      simp only [List.map_cons, Render.bind_bind]
      refine Tells.eval_bind fun name => Tells.eval_bind fun items => ?_
      refine Tells.eval_bind fun cols? => Tells.put_bind _ ?_
      refine ((tells_cells hbody name _ _ 0 1 1).inScope ∅).bind fun text _ t ht => ?_
      obtain rfl := ht
      refine Tells.put_bind _ (Tells.ends ?_)
      rw [String.append_empty, String.append_assoc]
      rfl

/-! ### All tags -/

/-- **What a standard tag writes is what it carries.** -/
theorem tells_standardTag (hpress : Faithful press) (kind : StandardTag) {pieces : List Piece}
    (h : ∀ p ∈ pieces, Sound press p) :
    Tells press Carried (standardTag kind pieces)
      (kind.run (pieces.map Piece.part) >>= Render.split) := by
  cases kind with
  | assign => exact tells_append _
  | capture => exact tells_captureTag h
  | case => exact tells_caseTag h
  | comment => exact tells_append _
  | cycle => exact tells_append _
  | «for» => exact tells_forTag h
  | «if» => exact tells_ifTag h
  | «include» => exact tells_includeTag hpress pieces
  | raw => exact tells_row h
  | tablerow => exact tells_tablerowTag h
  | «unless» => exact tells_unlessTag h

theorem tells_tag (hpress : Faithful press) (t : Tag) {pieces : List Piece}
    (h : ∀ p ∈ pieces, Sound press p) :
    Tells press Carried (tag t pieces) (t.run (pieces.map Piece.part) >>= Render.split) := by
  unfold tag Tag.run
  cases t.body with
  | standard kind => exact tells_standardTag hpress kind h
  | custom label run => exact tells_append _

/-- Pieces at the top, under one policy. -/
theorem tells_top (policy : StrayPolicy) {pieces : List Piece} (h : ∀ p ∈ pieces, Sound press p) :
    Tells press (fun text _ t => t = text) (top policy pieces)
      (Engine.renderTop policy (pieces.map Piece.part)) := by
  induction pieces with
  | nil => exact Tells.pure rfl
  | cons p rest ih =>
      have hrest := ih fun q hq => h q (List.mem_cons_of_mem _ hq)
      rw [List.map_cons, Engine.renderTop, ← Render.bind_bind]
      refine (h p List.mem_cons_self).bind fun text signal? r hr => ?_
      obtain rfl : r = (text, signal?) := hr
      have hgo := hrest.map (text ++ ·) (Q := fun more _ t => t = text ++ more)
        fun more _ others ho => by rw [ho]
      cases signal? with
      | none => exact hgo
      | some s =>
          cases policy with
          | ignore => exact hgo
          | error => exact Tells.throw _

end Writer

/-! ### Nodes and engines -/

namespace Node

mutual

/-- **What a tree writes is what it carries.** -/
theorem tells_write {press : Press} (hpress : Writer.Faithful press) :
    ∀ n : Node, Writer.Tells press Writer.Carried n.write (n.render >>= Render.split)
  | .block children => by
      have hrow := Writer.tells_row (sound_pieces hpress children)
      rwa [part_pieces] at hrow
  | .tag t children => by
      have htag := Writer.tells_tag hpress t (sound_pieces hpress children)
      rwa [part_pieces] at htag
  | .literal _ => Writer.tells_append _
  | .text _ => Writer.tells_append _
  | .lookup _ _ => Writer.tells_append _
  | .range _ _ => Writer.tells_append _
  | .compare _ _ _ => Writer.tells_append _
  | .connect _ _ _ => Writer.tells_append _
  | .output _ _ => Writer.tells_append _
  | .stage _ _ => Writer.tells_append _
  | .signal _ => Writer.tells_append _
  | .attribute _ _ => Writer.tells_append _
  | .placeholder => Writer.tells_append _

theorem sound_pieces {press : Press} (hpress : Writer.Faithful press) :
    ∀ ns : List Node, ∀ p ∈ pieces ns, Writer.Sound press p
  | [], _, h => by cases h
  | n :: rest, p, h => by
      rcases List.mem_cons.1 h with rfl | h
      · exact tells_write hpress n
      · exact sound_pieces hpress rest p h

end

end Node

namespace Engine

variable (e : Engine) (now : Moment)

/-- A writer renders where its press says. -/
theorem surroundings_press (depth : Nat) :
    (e.press now depth).surroundings = e.surroundings now depth := by
  cases depth <;> rfl

theorem template_press_zero (name : String) : (e.press now 0).template name =
    (e.findTemplate name).map fun _ _ s => (.error .tooDeep, s) := rfl

theorem template_press_succ (depth : Nat) (name : String) :
    (e.press now (depth + 1)).template name =
      (e.findTemplate name).map fun n => n.write.runOn (e.press now depth) := rfl

/-- **The templates of an engine write what they carry**, by induction on the number of
inclusions inside each other. -/
theorem faithful_press (depth : Nat) : Writer.Faithful (e.press now depth) := by
  induction depth with
  | zero =>
      intro name
      rw [surroundings_press, template_surroundings_zero, template_press_zero]
      cases e.findTemplate name with
      | error _ => rfl
      | ok n => exact ⟨_, rfl, fun _ _ => rfl⟩
  | succ depth ih =>
      intro name
      rw [surroundings_press, template_surroundings_succ, template_press_succ]
      cases e.findTemplate name with
      | error _ => rfl
      | ok n =>
          have htells := (Node.tells_write ih n).elsewhere (e.press now (depth + 1))
          rw [surroundings_press] at htells
          exact ⟨_, rfl, htells⟩

/-- **The conservation of text.**  For every tree and every stream, the render of the tree splits
into the text that the writer appends and the signal that it ends with, in the same state, or
both fail with the same error in the same state; and for nodes at the top, under every policy,
the rendered text is what is written. -/
theorem text_conserved (e : Engine) (now : Moment) :
    (∀ (n : Node) depth out s,
      n.write.runOn (e.press now depth) out s =
        match (do Render.split (← n.render)).runOn (e.surroundings now depth) s with
        | (.ok (text, signal?), t) => (.ok (signal?, out ++ text), t)
        | (.error x, t) => (.error x, t)) ∧
    (∀ policy nodes s,
      e.writeNodes now policy nodes s =
        match e.renderNodes now policy nodes s with
        | (.ok text, t) => (.ok ((), text), t)
        | (.error x, t) => (.error x, t)) := by
  constructor
  · intro n depth out s
    have h := Node.tells_write (e.faithful_press now depth) n out s
    rw [surroundings_press] at h
    cases hr : (n.render >>= Render.split).runOn (e.surroundings now depth) s with
    | mk result t =>
        rw [hr] at h
        cases result with
        | error x => exact h
        | ok r =>
            obtain ⟨text, signal?, hw, rfl⟩ := h
            exact hw
  · intro policy nodes s
    have hsound := Node.sound_pieces (e.faithful_press now maxDepth) nodes
    have h := Writer.tells_top policy hsound "" s
    rw [Node.part_pieces, surroundings_press] at h
    unfold writeNodes renderNodes
    cases hr : (renderTop policy (Node.parts nodes)).runOn (e.surroundings now maxDepth) s with
    | mk result t =>
        rw [hr] at h
        cases result with
        | error x => exact h
        | ok text' =>
            obtain ⟨text, a, hw, rfl⟩ := h
            rw [String.empty_append] at hw
            exact hw

end Engine

end TemplateEngine
