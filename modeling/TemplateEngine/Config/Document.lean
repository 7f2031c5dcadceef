/-
**Configurations in documents.**

A configuration may be written down in a document, and the document may be in a file.  What value
a text stands for is told by **a reader that is given**, and nothing is assumed of it here.  A
document that stands for nil is the default configuration, and so is a file that is not there.  Any
other document must be a mapping.

Main definitions:

* `Document.Reader`, `Document.Failure` — what tells the value of a text, and why it may not;
* `Config.ofDocument` — the configuration in a document;
* `Config.ofFile` — the configuration in a file that may not be there.
-/
import TemplateEngine.Error

set_option autoImplicit false

namespace TemplateEngine

namespace Document

/-- Why a text has no value: it is no document, which a reader may give a reason for, or the reader
fails in another way. -/
inductive Failure where
  | malformed (reason? : Option String)
  | other (e : Error)

/-- What tells the value of a text. -/
abbrev Reader := String → Except Failure Value

/-- The error of a document at `path` that is not read. -/
def Failure.toError (path : String) : Failure → Error
  | .malformed reason? => .config (.invalidDocument path reason?)
  | .other e => e

end Document

namespace Config

/-- The configuration in a document; `path` is where the document is from. -/
def ofDocument (read : Document.Reader) (path text : String) : Except Error Config :=
  match read text with
  | .error f => .error (f.toError path)
  | .ok .nil => .ok {}
  | .ok (.map entries) => (ofEntries entries).mapError Refusal.toError
  | .ok _ => .error (.config (.documentNotAMapping path))

/-- The configuration in a file that may not be there. -/
def ofFile (read : Document.Reader) (path : String) (text? : Option String) : Except Error Config :=
  match text? with
  | none => .ok {}
  | some text => ofDocument read path text

end Config

end TemplateEngine
