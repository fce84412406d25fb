import ShortVolume.Yaml.Token
import ShortVolume.Yaml.Token.Quoted
import ShortVolume.Text.Utf8
import ShortVolume.Number.Numeral
set_option autoImplicit false

/-!
Anchors, aliases, tags and directives.
-/

namespace ShortVolume.Yaml.Mark

/-- The name of an anchor or alias, from the place after its mark. -/
def name (p : Place) : Except Error (String × Place) :=
  let cs := p.span isAnchorChar
  let q := p.advance cs.length
  if cs.isEmpty || !(isGap q.char || isBreak q.char || isFlowIndicator q.char) then fail .anchor q
  else .ok (String.ofList cs, q)

/-! ### Tags -/

/-- The bytes that a run of percent escapes names, and the place after it. -/
def escapedBytes : Nat → Place → Except Error (List UInt8 × Place)
  | 0, p => .ok ([], p)
  | n + 1, p =>
    if p.char ≠ '%' then .ok ([], p)
    else
      let ds := p.next.rest.take 2
      if ds.length = 2 && ds.all isHexDigit then do
        let (bs, e) ← escapedBytes n (p.advance 3)
        return (UInt8.ofNat (Quoted.hexNumber ds) :: bs, e)
      else fail .tag p.next

/-- An address, with its escapes read as UTF-8. -/
def addressChars (v : Version) : Nat → Place → Except Error (List Char × Place)
  | 0, p => .ok ([], p)
  | n + 1, p =>
    if p.char = '%' then do
      let (bs, q) ← escapedBytes (p.rest.length + 1) p
      match Text.Utf8.decode bs with
      | .ok cs =>
        let (rest, e) ← addressChars v n q
        return (cs ++ rest, e)
      | .error _ => fail .tag p
    else if isAddressChar v p.char then do
      let (rest, e) ← addressChars v n p.next
      return (p.char :: rest, e)
    else .ok ([], p)

def address (v : Version) (p : Place) : Except Error (String × Place) := do
  let (cs, q) ← addressChars v (p.rest.length + 1) p
  if cs.isEmpty then fail .tag p else return (String.ofList cs, q)

def isHandleChar (c : Char) : Bool := isAsciiLetter c || isDigit c || c == '-' || c == '_'

/-- A handle: an exclamation mark, or a word between two of them. -/
def handle (p : Place) : Except Error (String × Place) :=
  if p.char ≠ '!' then fail .tag p
  else if p.next.char = ' ' then .ok ("!", p.next)
  else
    let word := p.next.span isHandleChar
    let q := p.advance (word.length + 1)
    if q.char = '!' then .ok (String.ofList ('!' :: (word ++ ['!'])), q.next) else fail .tag q

/-- The handle and the address of a tag, from the place of its first mark. A second mark right after
the first one belongs to the handle. -/
def tagParts (v : Version) (p : Place) : Except Error ((Option String × String) × Place) :=
  let (short, m) := if p.next.char = '!' then ("!!", p.next) else ("!", p)
  let q := m.next
  if q.char = '<' then do
    let (a, r) ← address v q.next
    if r.char = '>' then return ((none, a), r.next) else fail .tag r
  else if isGap q.char then .ok ((none, "!"), q)
  else if (q.rest.takeWhile (fun c => !isBlankOrBreak c)).contains '!' then do
    let (h, r) ← handle m
    let (a, e) ← address v r
    return ((some h, a), e)
  else do
    let (a, e) ← address v q
    return ((some short, a), e)

/-- The tag at the place. A blank or the end of a line has to follow it. -/
def tag (v : Version) (p : Place) : Except Error (Token × Place) := do
  let ((h, a), q) ← tagParts v p
  if isBlankOrBreak q.char then return (.tag h a, q) else fail .tag q

/-! ### Directives -/

def number (p : Place) : Except Error (Nat × Place) :=
  let ds := p.span isDigit
  if ds.isEmpty then fail .directive p
  else
    match Numeral.integer? 10 ds with
    | some i => .ok (i.toNat, p.advance ds.length)
    | none => .error (.of (.number (String.ofList ds)))

def versionDirective (p : Place) : Except Error (Token × Place) := do
  let (major, q) ← number p.skipSpaces
  if q.char ≠ '.' then fail .directive q
  else
    let (minor, r) ← number q.next
    if isBlankOrBreak r.char then return (.version ⟨major, minor⟩, r)
    else fail .directive r

def handleDirective (v : Version) (p : Place) : Except Error (Token × Place) := do
  let (h, q) ← handle p.skipSpaces
  if q.char ≠ ' ' then fail .directive q
  else
    let (a, r) ← address v q.skipSpaces
    if isBlankOrBreak r.char then return (.handle h a, r) else fail .directive r

def isDirectiveChar (c : Char) : Bool :=
  isAsciiLetter c || isDigit c || "-_:.".toList.contains c

/-- The rest of a directive's line, which may hold a comment. -/
def directiveEnd (p : Place) : Except Error Place :=
  let q := p.skipSpaces
  let q := if q.char = '#' then q.skip (fun c => !isStop c) else q
  if isStop q.char then .ok q.skipBreak else fail .directive q

def directive (v : Version) (p : Place) : Except Error (Token × Place) := do
  let word := p.next.span isDirectiveChar
  let q := p.advance (word.length + 1)
  if word.isEmpty || !isBlankOrBreak q.char then fail .directive q
  else
    let (t, r) ←
      if word = "YAML".toList then versionDirective q
      else if word = "TAG".toList then handleDirective v q
      else .ok (.remark, q.skip (fun c => !isStop c))
    return (t, ← directiveEnd r)

end ShortVolume.Yaml.Mark
