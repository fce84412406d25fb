import ShortVolume.Console.Handler.Literal
import ShortVolume.Text.Alphanumeric
set_option autoImplicit false

/-!
Handlers: tags that say what happens when a text is clicked.

The parameters of a handler are the name of an action, which may have arguments in round brackets,
or the arguments alone. Arguments have to be literals.
-/

namespace ShortVolume.Console.Handler

def isNamePart (c : Char) : Bool := Text.isAlphanumeric c || c == '_' || c == '.'

/-- Whether a text is an argument list on one line. -/
def isArguments (s : List Char) : Bool :=
  s.head? == some '(' && s.getLast? == some ')' && 2 ≤ s.length && !s.contains '\n'

def isReadable (parameters : List Char) : Bool :=
  let s := Text.trim parameters
  let rest := s.dropWhile isNamePart
  if rest.isEmpty then true
  else if isArguments rest then isLiteral rest
  else isLiteral s

example : isReadable "app.quit".toList = true ∧ isReadable "app.open('x', 1)".toList = true := by
  decide +kernel

example : isReadable "f(".toList = false ∧ isReadable "f(x)".toList = false ∧
    isReadable ['\ufeff'] = false := by decide +kernel

end ShortVolume.Console.Handler
