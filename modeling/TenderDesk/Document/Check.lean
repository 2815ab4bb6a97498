import TenderDesk.Failure
import TenderDesk.Settings.Basic
import TenderDesk.Text.LowerCase

/-!
# Check — which files may be uploaded

* `extension` is what follows the last dot of a file's name, in lower case. Dots at the front of
  the last part of a path belong to the stem.
* `checkFile` looks at the extension first and at the size second.
-/

namespace TenderDesk
namespace Document

/-- The last part of a path. -/
def baseName (cs : List Char) : List Char :=
  (cs.reverse.takeWhile (· != '/')).reverse

/-- What follows the last dot, if there is a dot. -/
def afterLastDot? (cs : List Char) : Option (List Char) :=
  if cs.contains '.' then some (cs.reverse.takeWhile (· != '.')).reverse else none

/-- The extension of a file name, empty when there is none. -/
def extension (name : String) : String :=
  let stem := (baseName name.toList).dropWhile (· == '.')
  Text.lower (String.ofList ((afterLastDot? stem).getD []))

/-- Texts in the order of their characters. -/
def sorted (ss : List String) : List String :=
  ss.mergeSort fun a b => a ≤ b

/-- Refuses a file of a kind that is not allowed, or a file that is too large. -/
def checkFile (rules : DocumentRules) (name : String) (size : Int) : Except Failure Unit :=
  if !rules.extensions.contains (extension name) then
    .error (.extensionRefused (sorted rules.extensions))
  else if rules.maxSize < size then .error (.fileTooLarge size rules.maxSize)
  else .ok ()

end Document
end TenderDesk
