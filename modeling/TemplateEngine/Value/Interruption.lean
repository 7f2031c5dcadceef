/-
**Text and signal.**

What a node gives is read as a text and, perhaps, a signal: a bare signal has no text, an
interrupted text carries the signal behind it, and everything else is its rendered text alone.
Putting the two together again, **a signal without text is a bare signal**.

Main definitions and results:

* `Value.interrupt`, `Value.split` — putting together and taking apart;
* `Value.split_interrupt` — taking apart undoes putting together.
-/
import TemplateEngine.Value.Text

set_option autoImplicit false

namespace TemplateEngine.Value

/-- A signal behind a text. -/
def interrupt (text : String) (s : Signal) : Value :=
  if text = "" then .signal s else .interrupted text s

/-- The text and the signal of what a node gives. -/
def split : Value → Except Fault (String × Option Signal)
  | .signal s => .ok ("", some s)
  | .interrupted text s => .ok (text, some s)
  | v => v.text.map (·, none)

/-- **Taking apart undoes putting together.** -/
theorem split_interrupt (text : String) (s : Signal) :
    split (interrupt text s) = .ok (text, some s) := by
  unfold interrupt
  split
  · next h => subst h; rfl
  · rfl

/-- A text is all text and carries no signal. -/
theorem split_str (s : String) : split (.str s) = .ok (s, none) := by
  simp [split, text_str, Except.map]

/-- What is no signal is all text. -/
theorem split_of_not_isSignal {v : Value} (h : v.isSignal = false) :
    v.split = v.text.map (·, none) := by
  cases v with
  | signal s => cases h
  | interrupted t s => cases h
  | _ => rfl

/-- A signal is taken apart into a text and that signal. -/
theorem exists_split_of_isSignal {v : Value} (h : v.isSignal = true) :
    ∃ text s, v.split = .ok (text, some s) := by
  cases v with
  | signal s => exact ⟨"", s, rfl⟩
  | interrupted t s => exact ⟨t, s, rfl⟩
  | _ => cases h

end TemplateEngine.Value
