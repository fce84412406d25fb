import ShortVolume.Console.Handler
import ShortVolume.Console.Picture
import ShortVolume.Console.Style
set_option autoImplicit false

/-!
Styled text: tags in brackets open and close styles and are not shown themselves.

A tag starts with a lower-case letter or one of three marks, so that most bracketed text is no tag;
a backslash before a tag shows it as it is. A closing tag names the style it closes, or closes the
last one. One that closes nothing is an error; a style that stays open is none.
-/

namespace ShortVolume.Console

/-- A tag: a name, and what stands after the equals sign. -/
structure Tag where
  name : List Char
  parameters : List Char
  deriving DecidableEq, Repr

/-- A piece of styled text. -/
inductive Piece where
  | text (s : List Char)
  | tag (t : Tag)
  deriving DecidableEq, Repr

/-- Why a text is no styled text. -/
inductive MarkupFault where
  /-- A closing tag closes nothing. -/
  | unmatched (style : String)
  /-- The parameters of a handler cannot be read. -/
  | unreadable (parameters : List Char)
  /-- A color lacks one of its amounts. -/
  | missingAmount (color : Style.MissingAmount)
  deriving DecidableEq, Repr

def MarkupFault.message : MarkupFault → String
  | unmatched style => "closing tag '[/" ++ style ++ "]' has nothing to close"
  | unreadable parameters => "error parsing '" ++ String.ofList parameters ++ "'"
  | missingAmount color => "'" ++ color.word ++ "' lacks an amount"

namespace Markup

def canStartTag (c : Char) : Bool :=
  ('a' ≤ c && c ≤ 'z') || c == '#' || c == '/' || c == '@'

/-- The content of the tag at the start of a text, and what follows the tag. -/
def tag? : List Char → Option (List Char × List Char)
  | '[' :: c :: r =>
    let inner := r.takeWhile (fun d => d != '[' && d != ']')
    match r.dropWhile (fun d => d != '[' && d != ']') with
    | ']' :: rest => if canStartTag c then some (c :: inner, rest) else none
    | _ => none
  | _ => none

/-- The tag at the start of a text, after the backslashes before it. -/
def escapedTag? (s : List Char) : Option (Nat × List Char × List Char) :=
  let slashes := (s.takeWhile (· == '\\')).length
  (tag? (s.drop slashes)).map (fun t => (slashes, t.1, t.2))

def tagOf (content : List Char) : Tag :=
  ⟨content.takeWhile (· != '='), (content.dropWhile (· != '=')).drop 1⟩

/-- A text without the backslashes before its brackets. -/
def unescaped : List Char → List Char
  | '\\' :: '[' :: r => '[' :: unescaped r
  | c :: r => c :: unescaped r
  | [] => []

/-- What a tag after backslashes is: each two of them show one, and a last odd one shows the tag. -/
def tagPieces (slashes : Nat) (content : List Char) : List Piece :=
  .text (List.replicate (slashes / 2) '\\') ::
    [if slashes % 2 = 1 then .text ('[' :: (content ++ [']'])) else .tag (tagOf content)]

/-- The pieces of a text of at most `n` characters. `before` is the text since the last tag, the
last character first. -/
def pieces : Nat → List Char → List Char → List Piece
  | 0, _, before => [.text (unescaped before.reverse)]
  | _, [], before => [.text (unescaped before.reverse)]
  | n + 1, c :: r, before =>
    match escapedTag? (c :: r) with
    | some (slashes, content, rest) =>
      .text (unescaped before.reverse) :: (tagPieces slashes content ++ pieces n rest [])
    | none => pieces n r (c :: before)

/-- A style that is open: its canonical text, and the parameters of its tag. -/
structure Open where
  style : String
  parameters : List Char

/-- The canonical text of a style. -/
def styleOf (name : List Char) : Except MarkupFault String :=
  (Style.canonical name).mapError .missingAmount

/-- Takes the last of the open styles with a name away. -/
def take? (style : String) : List Open → Option (Open × List Open)
  | [] => none
  | o :: r =>
    if o.style = style then some (o, r)
    else (take? style r).map (fun t => (t.1, o :: t.2))

def isHandler (style : String) : Bool := style.toList.head? == some '@'

/-- The styles `r` that stay open when `o` is closed. A handler is read now. -/
def closed (o : Open) (r : List Open) : Except MarkupFault (List Open) :=
  if isHandler o.style && !o.parameters.isEmpty && !Handler.isReadable o.parameters then
    .error (.unreadable o.parameters)
  else .ok r

/-- The styles that stay open after a closing tag; one without a name closes the last style. -/
def close (name : List Char) (styles : List Open) : Except MarkupFault (List Open) := do
  if (Text.trim name).isEmpty then
    match styles with
    | o :: r => closed o r
    | [] => .error (.unmatched "")
  else
    let style ← styleOf name
    match take? style styles with
    | some (o, r) => closed o r
    | none => .error (.unmatched style)

/-- The styles that are open after a tag. -/
def apply (styles : List Open) (t : Tag) : Except MarkupFault (List Open) :=
  match t.name with
  | '/' :: name => close name styles
  | name => do return ⟨← styleOf name, t.parameters⟩ :: styles

/-- The text that pieces show, given the open styles, the last one first. -/
def shown : List Open → List Piece → Except MarkupFault (List Char)
  | _, [] => .ok []
  | styles, .text s :: r => do return Picture.inText s ++ (← shown styles r)
  | styles, .tag t :: r => do shown (← apply styles t) r

/-- Characters that move the cursor or ring a bell, which are not shown. -/
def isControl (c : Char) : Bool :=
  c == '\x07' || c == '\x08' || c == '\x0b' || c == '\x0c' || c == '\r'

/-- The text that a styled text shows. -/
def plain (s : String) : Except MarkupFault (List Char) := do
  let cs := s.toList
  let text ← shown [] (pieces (cs.length + 1) cs [])
  return text.filter (fun c => !isControl c)

end Markup

end ShortVolume.Console
