import Transclude.Document.Parse
import Transclude.Provider.Basic

/-!
# Functions with fixed answers

Providers whose functions answer every call alike: with the document that a given text spells, with
given nodes, or with a given error. All functions of such a provider declare the same signatures.

## Main definitions

* `Provider.ofTexts` — functions that answer with texts
* `Provider.ofNodes` — functions that answer with nodes
* `Provider.ofErrors` — functions that fail
-/

namespace Transclude.Provider

/-- A provider that answers calls of a function by what `answer` makes of the function's entry and
the directory of the calling document. -/
def ofEntries {α : Type} (name : String) (signatures : List Signature)
    (entries : List (String × α))
    (answer : String → α → Path → Except (Failure CompilationError) Document) : Provider where
  name := name
  functions := entries.map fun (function, _) => ⟨function, signatures⟩
  invoke function _ directory :=
    match entries.lookup function with
    | some entry => ⟨[], answer function entry directory⟩
    | none => ⟨[], .error (.reported (.ofFault (.functionNotFound function)))⟩

/-- A provider of functions that answer with the document a text spells, as if it were a file of
the function's name beside the calling document. -/
def ofTexts (signatures : List Signature) (texts : List (String × String)) : Provider :=
  ofEntries "TextProvider" signatures texts fun function text directory =>
    Document.parse text (directory.join (Path.parse (function ++ ".md")))

/-- A provider of functions that answer with nodes. -/
def ofNodes (signatures : List Signature) (nodes : List (String × List Node)) : Provider :=
  ofEntries "NodeProvider" signatures nodes fun _ nodes _ => .ok ⟨nodes⟩

/-- A provider of functions that fail. -/
def ofErrors (signatures : List Signature) (errors : List (String × CompilationError)) : Provider :=
  ofEntries "ErrorProvider" signatures errors fun _ error _ => .error (.reported error)

end Transclude.Provider
