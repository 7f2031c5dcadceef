/-
**Upper and lower case.**

The full case mappings: one character may become several (`ß` becomes `SS`, `İ` becomes `i`
and a dot above).  Lower case looks at the neighbours of one letter only: a capital sigma after
a cased letter and before none becomes the final form.

Main definitions:

* `upper`, `lower` — the two mappings of a text;
* `upperOf`, `lowerOf` — of a single character, without context.
-/
import TemplateEngine.Text.CaseTable

set_option autoImplicit false

namespace TemplateEngine.Text

/-- The shift of the run that holds `n`. -/
def caseShift? (runs : List CaseRun) (n : Nat) : Option Int :=
  (runs.find? fun r => r.1 ≤ n && n ≤ r.2.1 && (n - r.1) % r.2.2.1 == 0).map (·.2.2.2)

/-- The image of a character under a case mapping: special, shifted, or itself. -/
def mapCase (runs : List CaseRun) (specials : List (Nat × List Nat)) (c : Char) : List Char :=
  match specials.find? (·.1 == c.toNat) with
  | some s => s.2.map Char.ofNat
  | none =>
      match caseShift? runs c.toNat with
      | some shift => [Char.ofNat (c.toNat + shift).toNat]
      | none => [c]

/-- The upper case of one character. -/
def upperOf (c : Char) : List Char := mapCase upperRuns upperSpecials c

/-- The lower case of one character, whatever stands around it. -/
def lowerOf (c : Char) : List Char := mapCase lowerRuns lowerSpecials c

/-- Whether the first character that is not passed over is a cased letter. -/
def meetsCased : List Char → Bool
  | [] => false
  | c :: rest => if passedOverRanges.contains c then meetsCased rest else casedRanges.contains c

/-- Lower case with the text before the cursor at hand, nearest character first. -/
def lowerFrom (before : List Char) : List Char → List Char
  | [] => []
  | c :: rest =>
      let image :=
        if c = 'Σ' then
          if meetsCased before && !meetsCased rest then ['ς'] else ['σ']
        else lowerOf c
      image ++ lowerFrom (c :: before) rest

/-- The text in lower case. -/
def lower (cs : List Char) : List Char := lowerFrom [] cs

/-- The text in upper case. -/
def upper (cs : List Char) : List Char := cs.flatMap upperOf

end TemplateEngine.Text
