import ShortVolume.Value.Literal
set_option autoImplicit false

/-!
Why a record is no volume, or a volume has no record.

A fault holds the value that was refused, and `Fault.message` is its sentence.
-/

namespace ShortVolume

/-- What a field was expected to hold. -/
inductive Expected where
  | string
  | integer
  | boolean
  | quantity
  | dictionary
  deriving DecidableEq, Repr

namespace Expected

def noun : Expected → String
  | string => "string"
  | integer => "integer"
  | boolean => "boolean"
  | quantity => "quantity"
  | dictionary => "dictionary"

/-- Whether a value is of the expected kind. A truth value is no integer and no quantity; a
quantity may be written as a number. -/
def accepts : Expected → Value → Bool
  | string, .text _ | string, .term _ => true
  | integer, .int _ => true
  | boolean, .bool _ => true
  | quantity, .text _ | quantity, .term _ | quantity, .int _ | quantity, .float _ => true
  | dictionary, v => v.isMap
  | _, _ => false

end Expected

/-- The vocabularies that a word may be missing from. -/
inductive Vocabulary where
  | accessMode
  | reclaimPolicy
  | hostPathType
  deriving DecidableEq, Repr

def Vocabulary.noun : Vocabulary → String
  | accessMode => "access mode"
  | reclaimPolicy => "reclaim policy"
  | hostPathType => "host path type"

/-- The kinds of backing store a volume may have. -/
inductive Kind where
  | gcePD
  | awsEBS
  | hostPath
  deriving DecidableEq, Repr

namespace Kind

/-- All kinds, in the order in which they are listed. -/
def all : List Kind := [gcePD, awsEBS, hostPath]

def tag : Kind → String
  | gcePD => "gce_pd"
  | awsEBS => "aws_ebs"
  | hostPath => "hostpath"

def ofTag? (s : Text) : Option Kind := all.find? (fun k => Text.ofString k.tag == s)

@[simp] theorem ofTag?_tag (k : Kind) : ofTag? k.tag = some k := by
  cases k <;> decide

theorem tag_of_ofTag? {s : Text} {k : Kind} (h : ofTag? s = some k) : s = k.tag := by
  have := List.find?_some h
  simpa using (beq_iff_eq.1 this).symm

/-- How many segments a selector of the kind has. -/
def arity : Kind → String
  | gcePD => "1 (pd name)"
  | awsEBS => "1 (volume id)"
  | hostPath => "1 or 2 (path[:type])"

end Kind

/-- Why a record is no volume, or a volume has no record. -/
inductive Fault where
  | notObject (value : Value)
  | notWrapper (value : Value)
  | unreadable (data : Value) (detail : String)
  | field (value : Value) (name : Text) (expected : Expected)
  | unsupportedType (tag : Value)
  | noSource (value : Value)
  | unknownWord (value : Value) (vocabulary : Vocabulary)
  | unknownToken (token whole : Value)
  | segmentCount (selector : List Text) (kind : Kind)
  | separatorInside (selector : List Value) (segment : Value) (kind : Kind)
  | misplaced (value : Value)
  | notPair (value : Value)
  | unwritable (value : Value)
  | longInteger
  | wideIndent
  deriving Repr

namespace Fault

def selectorValue (selector : List Text) : Value := .list (selector.map .text)

/-- The value that was refused. -/
def value : Fault → Value
  | notObject v | notWrapper v | unreadable v _ | field v _ _ | unsupportedType v | noSource v
  | unknownWord v _ | misplaced v | notPair v | unwritable v => v
  | unknownToken _ whole => whole
  | segmentCount selector _ => selectorValue selector
  | separatorInside selector _ _ => .list selector
  | longInteger | wideIndent => .null

def message : Fault → Text
  | notObject v => "expected dictionary for persistent volume, got " ++ v.kind
  | notWrapper _ => "expected dictionary for persistent_volume document"
  | unreadable _ detail => "expected dictionary for persistent volume: " ++ detail
  | field .null name _ => "missing required field \"" ++ name ++ "\""
  | field v name expected =>
    "expected " ++ expected.noun ++ " for key \"" ++ name ++ "\", got " ++ v.kind ++
      " (" ++ v.literal ++ ")"
  | unsupportedType tag => "unsupported volume type (" ++ tag.bare ++ ")"
  | noSource _ => "empty volume definition"
  | unknownWord v vocabulary => "unrecognized " ++ vocabulary.noun ++ " (" ++ v.literal ++ ")"
  | unknownToken token whole =>
    "couldn't parse (" ++ whole.bare ++ "): unknown token " ++ token.literal
  | segmentCount selector kind =>
    "expected " ++ kind.arity ++ " selector segment(s) for " ++ kind.tag ++ ", got " ++
      (selectorValue selector).literal
  | separatorInside _ segment kind =>
    "selector segment " ++ segment.literal ++ " of " ++ kind.tag ++ " contains \":\""
  | misplaced v => "a " ++ v.kind ++ " cannot stand there"
  | notPair v => "a " ++ v.kind ++ " that is not a pair"
  | unwritable v => "a " ++ v.kind ++ " has no place in a JSON document"
  | longInteger => "integer of more than 4300 digits"
  | wideIndent => "indent beyond all indices"

/-- Whether the message shows its values. An integer too long for a decimal text cannot be shown. -/
def isShowable : Fault → Bool
  | field v _ _ | unsupportedType v | unknownWord v _ => v.isShowable
  | unknownToken token whole => token.isShowable && whole.isShowable
  | separatorInside _ segment _ => segment.isShowable
  | _ => true

/-- The fault as it is reported: one whose values cannot be shown becomes that of the long
integer in them. -/
def reported (f : Fault) : Fault := if f.isShowable then f else longInteger

end Fault

end ShortVolume
