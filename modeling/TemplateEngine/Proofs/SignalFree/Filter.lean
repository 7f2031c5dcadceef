/-
**No standard filter makes a signal.**

Most of the filters give a text or a number whatever they are given.  The others give a part of
their value, or a list of parts; these are without signals if the value is.

Main definitions and results:

* `Operation.Keeps` — an operation that does not leave a class of values;
* `StandardFilter.keeps_signalFree` — **the 29 filters**;
* `Filter.signalFree_apply` — filters by any name with the body of a standard filter.
-/
import TemplateEngine.Proofs.SignalFree.Value

set_option autoImplicit false

namespace TemplateEngine

/-! ### Operations that keep a property -/

/-- Whatever an operation gives for values and parameters that satisfy `P` satisfies `P`. -/
def Operation.Keeps (P : Value → Prop) (op : Operation) : Prop :=
  ∀ v params, P v → (∀ p ∈ params, P p) → ∀ r, op.run v params = some r → Yields P r

namespace Operation

variable {P : Value → Prop}

theorem keeps_plain {body : Value → Except Failure Value} (h : ∀ v, P v → Yields P (body v)) :
    (plain body).Keeps P := by
  intro v params hv hp r hr
  match params with
  | [] =>
      cases hr
      exact h v hv
  | _ :: _ => cases hr

theorem keeps_unary {body : Value → Value → Except Failure Value}
    (h : ∀ v p, P v → P p → Yields P (body v p)) : (unary body).Keeps P := by
  intro v params hv hp r hr
  match params with
  | [] => cases hr
  | [p] =>
      cases hr
      exact h v p hv (hp p List.mem_cons_self)
  | _ :: _ :: _ => cases hr

theorem keeps_binary {body : Value → Value → Value → Except Failure Value}
    (h : ∀ v p q, Yields P (body v p q)) : (binary body).Keeps P := by
  intro v params hv hp r hr
  match params with
  | [] => cases hr
  | [_] => cases hr
  | [p, q] =>
      cases hr
      exact h v p q
  | _ :: _ :: _ :: _ => cases hr

theorem keeps_optional {body : Value → Option Value → Except Failure Value}
    (h : ∀ v p?, P v → Yields P (body v p?)) : (optional body).Keeps P := by
  intro v params hv hp r hr
  match params with
  | [] =>
      cases hr
      exact h v none hv
  | [p] =>
      cases hr
      exact h v (some p) hv
  | _ :: _ :: _ => cases hr

theorem keeps_optional₂ {body : Value → Option Value → Option Value → Except Failure Value}
    (h : ∀ v p? q?, Yields P (body v p? q?)) : (optional₂ body).Keeps P := by
  intro v params hv hp r hr
  match params with
  | [] =>
      cases hr
      exact h v none none
  | [p] =>
      cases hr
      exact h v (some p) none
  | [p, q] =>
      cases hr
      exact h v (some p) (some q)
  | _ :: _ :: _ :: _ => cases hr

end Operation

/-! ### Texts and numbers -/

namespace TextFilter

theorem signalFree_onText (f : List Char → List Char) (v : Value) :
    Yields (fun w => w.isSignalFree = true) (onText f v) :=
  (Yields.anything _).bind fun _ _ => Yields.pure rfl

theorem signalFree_onTexts (f : List Char → List Char → List Char) (v p : Value) :
    Yields (fun w => w.isSignalFree = true) (onTexts f v p) :=
  (Yields.anything _).bind fun _ _ => (Yields.anything _).bind fun _ _ => Yields.pure rfl

theorem signalFree_replacing (f : List Char → List Char → List Char → List Char)
    (v p q : Value) : Yields (fun w => w.isSignalFree = true) (replacing f v p q) :=
  (Yields.anything _).bind fun _ _ => (Yields.anything _).bind fun _ _ =>
    (Yields.anything _).bind fun _ _ => Yields.pure rfl

theorem signalFree_cutting (f : Int → List Char → List Char → List Char) (size : Int) (v : Value)
    (size? ellipsis? : Option Value) :
    Yields (fun w => w.isSignalFree = true) (cutting f size v size? ellipsis?) := by
  refine (Yields.anything _).bind fun _ _ => ?_
  cases size? <;> refine (Yields.anything _).bind fun _ _ => ?_ <;> cases ellipsis? <;>
    exact (Yields.anything _).bind fun _ _ => Yields.pure rfl

theorem signalFree_splitting (v separator : Value) :
    Yields (fun w => w.isSignalFree = true) (splitting v separator) := by
  refine (Yields.anything _).bind fun _ _ => (Yields.anything _).bind fun _ _ => Yields.pure ?_
  refine (Value.areSignalFree_iff _).2 fun x hx => ?_
  obtain ⟨_, -, rfl⟩ := List.mem_map.1 hx
  rfl

end TextFilter

namespace NumberFilter

/-- A number is no signal. -/
theorem signalFree_toValue (n : Number) : n.toValue.isSignalFree = true := by
  cases n <;> rfl

theorem signalFree_combining (f : Number → Number → Except Fault Number) (v p : Value) :
    Yields (fun w => w.isSignalFree = true) (combining f v p) :=
  (Yields.anything _).bind fun _ _ => (Yields.anything _).bind fun _ _ =>
    (Yields.anything _).bind fun n _ => Yields.pure (signalFree_toValue n)

theorem signalFree_dividing (f : Number → Number → Except Fault Number) (v p : Value) :
    Yields (fun w => w.isSignalFree = true) (dividing f v p) := by
  refine (Yields.anything _).bind fun _ _ => (Yields.anything _).bind fun b _ => ?_
  by_cases hb : b.isZero = true
  · simp only [hb, if_true]
    exact Yields.error _
  · simp only [hb]
    exact (Yields.anything _).bind fun n _ => Yields.pure (signalFree_toValue n)

end NumberFilter

/-! ### Parts of collections -/

namespace CollectionFilter

theorem signalFree_first {v : Value} (h : v.isSignalFree = true) :
    Yields (fun w => w.isSignalFree = true) (first v) := by
  have hhead {items : List Value} (h : Value.areSignalFree items = true) :
      (items.head?.getD .nil).isSignalFree = true :=
    Value.signalFree_getD ((Value.areSignalFree_iff items).1 h) fun _ hx => List.mem_of_head? hx
  cases v with
  | list items => exact Yields.pure (hhead h)
  | tuple items => exact Yields.pure (hhead h)
  | range a b =>
      refine (Yields.anything _).bind fun n _ => Yields.pure ?_
      split <;> rfl
  | _ => exact Yields.pure rfl

theorem signalFree_last {v : Value} (h : v.isSignalFree = true) :
    Yields (fun w => w.isSignalFree = true) (last v) := by
  have hlast {items : List Value} (h : Value.areSignalFree items = true) :
      (items.getLast?.getD .nil).isSignalFree = true :=
    Value.signalFree_getD ((Value.areSignalFree_iff items).1 h)
      fun _ hx => List.mem_of_getLast? hx
  cases v with
  | list items => exact Yields.pure (hlast h)
  | tuple items => exact Yields.pure (hlast h)
  | range a b =>
      refine (Yields.anything _).bind fun n _ => Yields.pure ?_
      split <;> rfl
  | _ => exact Yields.pure rfl

theorem signalFree_joining (v : Value) (glue? : Option Value) :
    Yields (fun w => w.isSignalFree = true) (joining v glue?) := by
  unfold joining
  cases glue? <;> refine (Yields.anything _).bind fun _ _ => ?_ <;> cases items? v <;>
    exact (Yields.anything _).bind fun _ _ => Yields.pure rfl

theorem signalFree_mapping {v : Value} (h : v.isSignalFree = true) (key : Value) :
    Yields (fun w => w.isSignalFree = true) (mapping v key) := by
  refine ((Value.signalFree_listed h).mapError _).bind fun items hitems => ?_
  refine (Yields.mapM fun x hx => ?_).bind fun ws hws =>
    Yields.pure ((Value.areSignalFree_iff ws).2 hws)
  exact (Value.signalFree_property (hitems x hx) key).mapError _

/-- What is sorted was there before. -/
theorem mem_sorted (items : List Value) (key? : Option Value) :
    Yields (fun ws => ∀ w ∈ ws, w ∈ items) (sorted items key?) := by
  cases key? with
  | none =>
      exact (Sorting.perm_sort Value.less items).mono fun ws hws w hw => hws.subset hw
  | some key =>
      have hkeyed : Yields (fun pairs => ∀ p ∈ pairs, p.2 ∈ items) (keyed key items) :=
        Yields.mapM fun x hx => (Yields.anything _).bind fun _ _ => Yields.pure hx
      refine hkeyed.bind fun pairs hpairs => ?_
      refine (Sorting.perm_sort _ _).bind fun present hpresent => Yields.pure fun w hw => ?_
      obtain ⟨p, hp, rfl⟩ := List.mem_map.1 hw
      rcases List.mem_append.1 hp with hp | hp
      · exact hpairs p (List.mem_filter.1 (hpresent.subset hp)).1
      · exact hpairs p (List.mem_filter.1 hp).1

theorem signalFree_sorting {v : Value} (h : v.isSignalFree = true) (key? : Option Value) :
    Yields (fun w => w.isSignalFree = true) (sorting v key?) := by
  refine ((Value.signalFree_listed h).mapError _).bind fun items hitems => ?_
  cases hsorted : sorted items key? with
  | error m => exact Yields.error _
  | ok ws =>
      refine Yields.pure ((Value.areSignalFree_iff ws).2 fun w hw => ?_)
      exact hitems w (mem_sorted items key? ws hsorted w hw)

end CollectionFilter

theorem DateFilter.signalFree_dating (now : Moment) {v : Value} (h : v.isSignalFree = true)
    (format : Value) : Yields (fun w => w.isSignalFree = true) (dating now v format) := by
  refine (Yields.anything _).bind fun f _ => (Yields.anything _).bind fun d? _ => ?_
  cases d? with
  | none => exact Yields.pure h
  | some d =>
      show Yields _ (if f.isEmpty = true then _ else _)
      split
      · exact Yields.pure h
      · exact Yields.pure rfl

/-! ### All standard filters -/

open TextFilter NumberFilter CollectionFilter in
/-- **No standard filter makes a signal**: from values without signals each of them gives a value
without signals, if it gives one. -/
theorem StandardFilter.keeps_signalFree (kind : StandardFilter) (now : Moment) :
    (kind.operation now).Keeps fun v => v.isSignalFree = true := by
  cases kind with
  | append => exact Operation.keeps_unary fun v p _ _ => signalFree_onTexts _ v p
  | prepend => exact Operation.keeps_unary fun v p _ _ => signalFree_onTexts _ v p
  | remove => exact Operation.keeps_unary fun v p _ _ => signalFree_onTexts _ v p
  | removeFirst => exact Operation.keeps_unary fun v p _ _ => signalFree_onTexts _ v p
  | capitalize => exact Operation.keeps_plain fun v _ => signalFree_onText _ v
  | downcase => exact Operation.keeps_plain fun v _ => signalFree_onText _ v
  | upcase => exact Operation.keeps_plain fun v _ => signalFree_onText _ v
  | stripNewlines => exact Operation.keeps_plain fun v _ => signalFree_onText _ v
  | escape => exact Operation.keeps_plain fun v _ => signalFree_onText _ v
  | h => exact Operation.keeps_plain fun v _ => signalFree_onText _ v
  | escapeOnce => exact Operation.keeps_plain fun v _ => signalFree_onText _ v
  | stripHtml => exact Operation.keeps_plain fun v _ => signalFree_onText _ v
  | replace => exact Operation.keeps_binary (signalFree_replacing _)
  | replaceFirst => exact Operation.keeps_binary (signalFree_replacing _)
  | split => exact Operation.keeps_unary fun v p _ _ => signalFree_splitting v p
  | truncate => exact Operation.keeps_optional₂ (signalFree_cutting _ _)
  | truncatewords => exact Operation.keeps_optional₂ (signalFree_cutting _ _)
  | plus => exact Operation.keeps_unary fun v p _ _ => signalFree_combining _ v p
  | minus => exact Operation.keeps_unary fun v p _ _ => signalFree_combining _ v p
  | times => exact Operation.keeps_unary fun v p _ _ => signalFree_combining _ v p
  | dividedBy => exact Operation.keeps_unary fun v p _ _ => signalFree_dividing _ v p
  | modulo => exact Operation.keeps_unary fun v p _ _ => signalFree_dividing _ v p
  | first => exact Operation.keeps_plain fun v hv => (signalFree_first hv).mapError _
  | last => exact Operation.keeps_plain fun v hv => (signalFree_last hv).mapError _
  | size => exact Operation.keeps_plain fun v _ => (Yields.anything _).bind fun _ _ => Yields.pure rfl
  | join => exact Operation.keeps_optional fun v glue? _ => signalFree_joining v glue?
  | map => exact Operation.keeps_unary fun v p hv _ => signalFree_mapping hv p
  | sort => exact Operation.keeps_optional fun v key? hv => signalFree_sorting hv key?
  | date => exact Operation.keeps_unary fun v p hv _ => DateFilter.signalFree_dating now hv p

/-- Whether a filter has the body of a standard filter. -/
def Filter.IsStandard (f : Filter) : Prop := ∃ kind, f.body = .standard kind

/-- **A filter with the body of a standard filter makes no signal**, whatever its name is. -/
theorem Filter.signalFree_apply {f : Filter} (hf : f.IsStandard) (now : Moment) {v : Value}
    (hv : v.isSignalFree = true) {params : List Value}
    (hp : ∀ p ∈ params, p.isSignalFree = true) :
    Yields (fun w => w.isSignalFree = true) (f.apply now v params) := by
  obtain ⟨kind, hkind⟩ := hf
  rw [Filter.apply, hkind]
  dsimp only
  split
  · next r hr => exact (kind.keeps_signalFree now v params hv hp r hr).mapError _
  · exact Yields.error _

/-- The filters that every registry starts with have the bodies of standard filters. -/
theorem isStandard_of_get {name : String} {f : Filter} (h : standardFilters.get name = .ok f) :
    f.IsStandard := by
  unfold Registry.get at h
  split at h
  · next g hg =>
      cases h
      obtain ⟨item, hitem, heq⟩ := List.mem_map.1 (Table.mem_of_find?_ofList hg)
      obtain ⟨kind, -, rfl⟩ := List.mem_map.1 hitem
      cases heq
      exact ⟨kind, rfl⟩
  · cases h

end TemplateEngine
