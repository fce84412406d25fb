import ShortVolume.Yaml.Charset
import ShortVolume.Yaml.Error
set_option autoImplicit false

/-!
The tokens of a text.

Indentation is made explicit: a block collection has a token where it starts and one where it ends,
and a key of a map is announced before it.
-/

namespace ShortVolume.Yaml

inductive Token where
  | version (v : Version)
  | handle (name address : String)
  /-- A directive without a meaning. -/
  | remark
  | documentStart
  /-- The end of a document; something else may follow on its line. -/
  | documentEnd (followed : Bool)
  | blockSequence
  | blockMapping
  | blockEnd
  | flowSequence
  | flowSequenceEnd
  | flowMapping
  | flowMappingEnd
  | item
  | comma
  | key
  | value
  | alias (name : String)
  | anchor (name : String)
  | tag (handle : Option String) (suffix : String)
  | scalar (text : Text) (plain : Bool)
  deriving DecidableEq, Repr

namespace Token

/-- The name of a token in messages. -/
def name : Token → String
  | .version _ | .handle _ _ | .remark => "<directive>"
  | .documentStart => "<document start>"
  | .documentEnd _ => "<document end>"
  | .blockSequence => "<block sequence start>"
  | .blockMapping => "<block mapping start>"
  | .blockEnd => "<block end>"
  | .flowSequence => "["
  | .flowSequenceEnd => "]"
  | .flowMapping => "\x7b"
  | .flowMappingEnd => "\x7d"
  | .item => "-"
  | .comma => ","
  | .key => "?"
  | .value => ":"
  | .alias _ => "<alias>"
  | .anchor _ => "<anchor>"
  | .tag _ _ => "<tag>"
  | .scalar _ _ => "<scalar>"

/-- The name of what a place holds: a token, or the end of the text. -/
def nameAt (t : Option Token) : String := (t.map name).getD "<stream end>"

end Token

/-- A token, with the numbers of characters before it and before what follows it. -/
structure Lexeme where
  token : Token
  first : Nat
  after : Nat
  deriving Repr

def fail {α : Type} (what : Malformed) (p : Place) : Except Error α :=
  .error (.at_ p.index (.of (.malformed what)))

/-- Whatever is wrong inside of what starts at a place. -/
def inside {α : Type} (p : Place) (r : Except Error α) : Except Error α :=
  r.mapError (Error.within p.index)

end ShortVolume.Yaml
