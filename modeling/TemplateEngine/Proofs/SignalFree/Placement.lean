/-
**Where signals may stand, and a watch for those that stand elsewhere.**

In a placed tree no literal holds a signal, and signals and inclusions stand only at statements.
A watch is put around the render of every node: it looks through all scopes before and behind the
node, and at the value of every expression, and sounds an alarm if it finds a signal.  Running a
placed tree the watch finds nothing.

Main definitions and results:

* `Node.isPlaced` — placed trees, at every licence;
* `Context.isSignalFree` — no signal is bound in any scope;
* `Observer.watch` — the watch;
* `Upkeep.signalFree_lawful` — **all primitive steps of a watched render keep signals out**.
-/
import TemplateEngine.Proofs.SignalFree.Filter
import TemplateEngine.Proofs.TwoRuns.Upkeep

set_option autoImplicit false

namespace TemplateEngine

/-! ### Placed trees -/

namespace Node

mutual

/-- Whether a tree is made of standard tags and literals without signals, and has signals and
inclusions only where the licence lets them stand. -/
def isPlaced : Licence → Node → Bool
  | _, .literal v => v.isSignalFree
  | _, .text _ => true
  | _, .lookup _ _ => true
  | _, .range start stop => isPlaced .barred start && isPlaced .barred stop
  | _, .compare _ left right => isPlaced .barred left && isPlaced .barred right
  | _, .connect _ left right => isPlaced .barred left && isPlaced .barred right
  | _, .output expression stages => isPlaced .barred expression && arePlaced .barred [] stages
  | _, .stage _ params => arePlaced .barred [] params
  | l, .block children => arePlaced l (children.map fun _ => .statement) children
  | l, .tag t children =>
      match t.body with
      | .standard kind =>
          (kind != .include || l == .free) &&
            arePlaced l (kind.positions (children.map isAttribute)) children
      | .custom _ _ => false
  | l, .signal _ => l == .free
  | _, .attribute _ value => isPlaced .barred value
  | _, .placeholder => true

/-- Whether several trees are placed, at positions that are given one by one; what is without a
position is an expression. -/
def arePlaced : Licence → List Position → List Node → Bool
  | _, _, [] => true
  | l, [], n :: rest => isPlaced .barred n && arePlaced l [] rest
  | l, pos :: more, n :: rest => isPlaced (pos.licence l) n && arePlaced l more rest

end

theorem arePlaced_iff (l : Licence) (positions : List Position) (ns : List Node) :
    arePlaced l positions ns = true ↔ ObeyAt (fun l n => n.isPlaced l = true) l positions ns := by
  induction ns generalizing positions with
  | nil => cases positions <;> simp [arePlaced, ObeyAt]
  | cons n rest ih => cases positions <;> simp [arePlaced, ObeyAt, ih]

end Node

/-- Every template of the engine is placed; it may signal to what includes it. -/
def Engine.Placed (e : Engine) : Prop :=
  ∀ name n, e.findTemplate name = .ok n → n.isPlaced .free = true

/-- The placed trees, at every licence. -/
def Discipline.placed : Discipline .signalFree (fun _ => True) (fun _ => True) (fun _ => True) where
  Obeys l n := n.isPlaced l = true
  literal h := by
    rw [Node.isPlaced] at h
    exact h
  lookup _ := trivial
  range h := by simpa [Node.isPlaced] using h
  compare h := by simpa [Node.isPlaced] using h
  connect h := by simpa [Node.isPlaced] using h
  output h := by
    rw [Node.isPlaced, Bool.and_eq_true, Node.arePlaced_iff] at h
    exact ⟨h.1, obeyAt_nil.1 h.2⟩
  stage h := by
    rw [Node.isPlaced, Node.arePlaced_iff] at h
    exact ⟨trivial, obeyAt_nil.1 h⟩
  block h := by
    rw [Node.isPlaced, Node.arePlaced_iff] at h
    exact obeyAt_statements.1 h
  tag {l t children} h := by
    rw [Node.isPlaced] at h
    cases hbody : t.body with
    | custom label run => simp [hbody] at h
    | standard kind =>
        simp only [hbody, Bool.and_eq_true, Node.arePlaced_iff] at h
        refine ⟨kind, rfl, ?_, trivial, h.2⟩
        rintro rfl v hv
        -- an inclusion gives what its template gives, and stands only where signals may stand
        have hl : l = .free := by simpa using h.1
        rw [hl]
        exact hv
  signal {l s} h := by
    have hl : l = .free := by simpa [Node.isPlaced] using h
    rw [hl]
    exact Or.inr rfl
  attr h := by simpa [Node.isPlaced] using h

/-! ### Contexts without signals -/

/-- Whether no signal is bound in a scope. -/
def Scope.isSignalFree (scope : Scope) : Bool := scope.entries.all (·.2.isSignalFree)

/-- Whether no signal is bound in any scope. -/
def Context.isSignalFree (c : Context) : Bool := c.scopes.all Scope.isSignalFree

theorem Scope.signalFree_find? {scope : Scope} (h : scope.isSignalFree = true) {key : Key}
    {v : Value} (hv : scope.find? key = some v) : v.isSignalFree = true :=
  List.all_eq_true.1 h _ (Bindings.mem_of_lookup hv)

theorem Scope.signalFree_insert {scope : Scope} (h : scope.isSignalFree = true) (key : Key)
    {v : Value} (hv : v.isSignalFree = true) :
    Scope.isSignalFree (scope.insert key v) = true := by
  refine List.all_eq_true.2 fun b hb => ?_
  rcases Bindings.mem_insert hb with rfl | hb
  · exact hv
  · exact List.all_eq_true.1 h b hb

theorem Context.isSignalFree_iff (c : Context) :
    c.isSignalFree = true ↔
      (∀ scope ∈ c.inner, scope.isSignalFree = true) ∧ c.root.isSignalFree = true := by
  simp [isSignalFree, scopes]

/-- Without signals in the scopes no variable is one. -/
theorem Context.signalFree_resolve {c : Context} (h : c.isSignalFree = true) (strict : Bool)
    (name : String) : Yields (fun v => v.isSignalFree = true) (c.resolve strict name) := by
  unfold resolve
  split
  · next v hv =>
      obtain ⟨scope, hscope, hv⟩ := List.exists_of_findSome?_eq_some hv
      exact Yields.pure (Scope.signalFree_find? (List.all_eq_true.1 h scope hscope) hv)
  · split
    · exact Yields.error _
    · exact Yields.pure rfl

/-- A state without signals whose filters have the bodies of standard filters. -/
structure State.SignalFree (s : State) : Prop where
  context : s.context.isSignalFree = true
  filters (name : String) (f : Filter) : s.filters.get name = .ok f → f.IsStandard

/-! ### The watch -/

/-- Whether a result may be used at a position: what an expression gives is without signals. -/
def Position.admits : Position → Except Error Value → Bool
  | .expression, .ok v => v.isSignalFree
  | _, _ => true

/-- Look for signals before and behind a node, and sound an alarm if there is one where none
should be. -/
def Observer.watch (alarm : Render Value) : Observer := fun pos r =>
  Render.ofFunction fun env s =>
    if s.context.isSignalFree then
      let o := r.runOn env s
      if o.2.context.isSignalFree && pos.admits o.1 then o else alarm.runOn env o.2
    else alarm.runOn env s

/-- No signals in the scopes, whatever the alarm would be. -/
def Upkeep.signalFree (alarm : Render Value) (strays : Prop) : Upkeep where
  values := .signalFree
  Uses _ := True
  trees := .placed
  observer := .watch alarm
  Strays := strays
  Scoped scope := scope.isSignalFree = true
  Kept s := s.context.root.isSignalFree = true ∧
    ∀ name f, s.filters.get name = .ok f → f.IsStandard

namespace Upkeep

variable {alarm : Render Value} {strays : Prop}

theorem good_signalFree_iff (alarm : Render Value) (strays : Prop) (s : State) :
    (signalFree alarm strays).Good s ↔ s.SignalFree := by
  constructor
  · rintro ⟨hinner, hroot, hfilters⟩
    exact ⟨(Context.isSignalFree_iff _).2 ⟨hinner, hroot⟩, hfilters⟩
  · rintro ⟨hcontext, hfilters⟩
    obtain ⟨hinner, hroot⟩ := (Context.isSignalFree_iff _).1 hcontext
    exact ⟨hinner, hroot, hfilters⟩

/-- Everything is kept up at the end if it was kept up at the start. -/
theorem GoodEnd.signalFree {α : Type} {Q : α → Prop} {s : State} {o : Outcome α}
    (h : (signalFree alarm strays).GoodEnd Q s o) (hs : s.SignalFree) : o.2.SignalFree := by
  rw [← good_signalFree_iff alarm strays] at hs ⊢
  exact ⟨h.inner ▸ hs.1, h.kept⟩

/-- **The watch finds nothing** in a step that keeps signals out. -/
theorem observe_watch {left right : Surroundings} {pos : Position} {l : Licence}
    {r r' : Render Value} (hl : pos = .expression → l = .barred)
    (h : ((signalFree alarm strays).runs left right).Follows (ValueClass.signalFree.At l) r r') :
    ((signalFree alarm strays).runs left right).Follows (ValueClass.signalFree.At l)
      (Observer.watch alarm pos r) r' := by
  refine follows fun s hs => ?_
  obtain ⟨heq, hend⟩ := of_follows h hs
  refine ⟨?_, hend⟩
  have hstart := (good_signalFree_iff _ _ s).1 hs
  have hadmits : pos.admits (r'.runOn right s).1 = true := by
    cases pos with
    | statement => rfl
    | body => rfl
    | expression =>
        have hvalue := hend.value
        rw [hl rfl] at hvalue
        cases hresult : (r'.runOn right s).1 with
        | error e => rfl
        | ok v => exact hvalue v hresult
  show (if s.context.isSignalFree = true then _ else _) = _
  rw [if_pos hstart.context, heq, if_pos]
  rw [(hend.signalFree hstart).context, hadmits]
  rfl

/-- No error of a standard filter tells of a stray signal. -/
theorem isStray_apply {f : Filter} (hf : f.IsStandard) {now : Moment} {v : Value}
    {params : List Value} {e : Error} (h : f.apply now v params = .error e) :
    e.isStray = false := by
  obtain ⟨kind, hkind⟩ := hf
  rw [Filter.apply, hkind] at h
  dsimp only at h
  split at h
  · next result _ =>
      cases result with
      | ok w => cases h
      | error failure =>
          cases failure with
          | refused reason =>
              cases h
              rfl
          | fault fault =>
              cases h
              rfl
  · cases h
    rfl

/-- **All primitive steps of a watched render keep signals out.** -/
theorem signalFree_lawful (alarm : Render Value) (strays : Prop) :
    (signalFree alarm strays).Lawful where
  scoped_empty := rfl
  scoped_insert key h hv := Scope.signalFree_insert h key hv
  kept_withInner _ h := h
  resolve strict name hs :=
    Context.signalFree_resolve ((good_signalFree_iff _ _ _).1 hs).context strict name
  assign name _ hv h := ⟨Scope.signalFree_insert h.1 name hv, h.2⟩
  advance _ _ h := h
  applyFilter now _ _ h hf hv hp :=
    ⟨Filter.signalFree_apply (h.2 _ _ hf) now hv hp, fun e he hstray => by
      rw [isStray_apply (h.2 _ _ hf) he] at hstray
      cases hstray⟩
  observe := observe_watch

end Upkeep

end TemplateEngine
