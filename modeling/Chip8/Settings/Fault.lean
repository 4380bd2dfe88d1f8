/-
  Chip8/Settings/Fault.lean
  =========================
  **Why settings cannot be loaded** — every cause is one constructor that carries
  what it is about; `Fault.word` names the kind of a fault, and `Fault.message` is the
  only place where a fault becomes text.

  A fault may be about a place in the settings, which is noted once: the note that
  is nearest to the cause counts.  `Fault.isRefusal` separates what is said about
  settings from what has nothing to do with them.
-/
import Chip8.Settings.Coercion
import Chip8.Settings.Site
import Chip8.Settings.Template
import Chip8.Text.Placeholder
import Chip8.Text.Similar

namespace Chip8.Settings

open Chip8.Yaml (Scalar Value)

/-- The text for an integer that is too long as text. -/
def overlongText : String :=
  s!"Exceeds the limit ({Text.digitLimit} digits) for integer string conversion; " ++
    "use sys.set_int_max_str_digits() to increase the limit"

/-- How a function is used in a wrong way. -/
inductive Misuse where
  /-- Too few or too many arguments, or one of a wrong kind. -/
  | argument
  /-- An argument without a property that is asked for. -/
  | property
  /-- A name for which there is nothing. -/
  | name
  /-- A value out of all that are expected. -/
  | value
  /-- A number beyond all that can be held. -/
  | range
  /-- A condition that was taken for granted. -/
  | condition
  deriving DecidableEq, Repr

/-- The name of a misuse. -/
def Misuse.word : Misuse → String
  | argument => "TypeError"
  | property => "AttributeError"
  | name => "KeyError"
  | value => "ValueError"
  | range => "OverflowError"
  | condition => "AssertionError"

/-- What a fault is about: a key with its name in full, what holds it, and its value.  The
    text of a value is missing if it would be too long. -/
structure Note where
  fullKey : String
  holder : Option Holder
  key : String
  keyWord : String
  value : Option String
  valueWord : String
  deriving DecidableEq, Repr

/-- A cause. -/
inductive Fault where
  /-- A text looks like a template but is none. -/
  | malformed (m : Template.Malformed)
  /-- A collection has a key of a kind that keys do not have. -/
  | badKey (word : String)
  /-- A number and its text are keys of one dictionary. -/
  | clashingKeys (old new : String)
  /-- A value is of a kind that collections do not hold. -/
  | unsupported (word : String)
  /-- A list is given where a dictionary is, or the other way round. -/
  | unmergeable
  /-- A list has no such item. -/
  | noSuchItem
  /-- An item of a list is asked for by something else than a number. -/
  | notIndex (name : String)
  /-- An item of a list is given by something else than a number. -/
  | badIndex
  /-- An item of a tuple is given. -/
  | frozen
  /-- A key has no part at all. -/
  | keyless
  /-- A part of a value is asked for that is itself still to come. -/
  | stillUnset (key : String)
  /-- There is no such field. -/
  | unknownKey (key : String)
  /-- Null is given. -/
  | missing (t : Target)
  /-- A value of the wrong kind is given. -/
  | unsuitable (t : Target)
  /-- A key leads on from something that holds nothing: the whole key, the way to it
      and what would be next. -/
  | noContainer (key way next : String)
  /-- A key leads further out than the settings. -/
  | beyondRoot (key : String)
  /-- A function is given a key that leads nowhere. -/
  | noSuchKey (intro key : String)
  /-- A template refers to something that does not exist: its key, and what is left of it
      after the points at its start. -/
  | unknownReference (key rest : String)
  /-- A template refers to something further out than the settings. -/
  | referenceBeyondRoot (key : String)
  /-- A template refers to something that is still to come. -/
  | unsetReference (key : String)
  /-- A template stands for the mark of a value that is still to come. -/
  | unsetResult (key : String)
  /-- A template refers to itself. -/
  | circular
  /-- A template refers to something that holds it. -/
  | enclosing
  /-- A part of a key is given by a template with such a value. -/
  | badPiece (source text word : String)
  /-- The name of a function is given by a template with such a value. -/
  | badName (source text word : String)
  /-- A template uses a function that does not exist. -/
  | unknownFunction (name : String)
  | misused (m : Misuse) (text : String)
  /-- No collection is made of a value of such a kind. -/
  | noObject (word : String)
  /-- An integer that is asked for as a text would be too long. -/
  | overlong
  /-- Collections or templates are nested too deeply. -/
  | tooDeep
  /-- A text is no YAML. -/
  | unreadable (text : String) (e : Yaml.Error)
  /-- What is put into the template of a field is of the wrong kind. -/
  | unsuitableResult (template : String) (f : Fault)
  /-- Something goes wrong while a template is filled. -/
  | raised (f : Fault)
  /-- A fault at a place. -/
  | about (note : Note) (f : Fault)

namespace Fault

/-- The name of the kind of a fault.  What is wrong with a value or an index at a place is
    said of the settings. -/
def word : Fault → String
  | malformed .unopened => "Exception"
  | malformed _ => "GrammarParseError"
  | badKey _ | clashingKeys .. => "KeyValidationError"
  | unsupported _ => "UnsupportedValueType"
  | unmergeable => "TypeError"
  | noSuchItem | keyless => "IndexError"
  | notIndex _ => "TypeError"
  | badIndex => "ValueError"
  | frozen => "ReadonlyConfigError"
  | stillUnset _ => "MissingMandatoryValue"
  | unknownKey _ | beyondRoot _ | noSuchKey .. => "ConfigKeyError"
  | missing _ | unsuitable _ | noObject _ => "ValidationError"
  | noContainer .. => "ConfigTypeError"
  | unknownReference .. | referenceBeyondRoot _ => "InterpolationKeyError"
  | unsetReference _ | unsetResult _ => "InterpolationToMissingValueError"
  | circular | enclosing | badPiece .. | badName .. | raised _ => "InterpolationResolutionError"
  | unknownFunction _ => "UnsupportedInterpolationType"
  | misused m _ => m.word
  | overlong => "ValueError"
  | tooDeep => "RecursionError"
  | unreadable _ e => e.word
  | unsuitableResult .. => "InterpolationValidationError"
  | about _ f =>
    match f.word with
    | "TypeError" => "ConfigTypeError"
    | "IndexError" => "ConfigIndexError"
    | w => w

/-- A fault of a template and what it refers to. -/
def isResolution : Fault → Bool
  | unknownReference .. | referenceBeyondRoot _ | unsetReference _ | unsetResult _ | circular
  | enclosing | badPiece .. | badName .. | unknownFunction _ => true
  | unsuitableResult .. | raised _ => true
  | about _ f => f.isResolution
  | _ => false

/-- The fault says that settings are refused. -/
def isRefusal : Fault → Bool
  | malformed .unopened | unmergeable | noSuchItem | keyless | notIndex _ | badIndex | misused ..
  | overlong | tooDeep | unreadable .. => false
  | about _ f => f.isRefusal || f.word == "TypeError" || f.word == "IndexError"
  | _ => true

/-! ### Texts -/

/-- The names of fields that are close to a key, as a question. -/
def suggestion (key : String) : String :=
  match Text.Similar.closest key (Field.all.map Field.name) with
  | [] => ""
  | [name] => s!". Did you mean: '{name}'?"
  | names => s!". Did you mean one of: {quotedList names}?"

/-- What a placeholder in a message about a place stands for. -/
def placeholder (n : Note) (name : String) : Option (Option String) :=
  match name with
  | "KEY" => some (some n.key)
  | "FULL_KEY" => some (some n.fullKey)
  | "KEY_TYPE" => some (some n.keyWord)
  | "OBJECT_TYPE" => some (some ((n.holder.map Holder.word).getD "None"))
  | "REF_TYPE" => some (some ((n.holder.bind Holder.limits?).getD "Any"))
  | "VALUE" => some n.value
  | "VALUE_TYPE" => some (some n.valueWord)
  | _ => none

/-- The lines about a place after a message. -/
def placeText (n : Note) : String :=
  let limits := match n.holder.bind Holder.limits? with
    | some limits => "\n    reference_type=" ++ limits
    | none => ""
  let holder := (n.holder.map Holder.word).getD "None"
  s!"\n    full_key: {n.fullKey}{limits}\n    object_type={holder}"

/-- The text of a fault. -/
def message : Fault → String
  | malformed m => m.message
  | badKey word => s!"Incompatible key type '{word}'"
  | clashingKeys old new => s!"Conflicting integer and string keys: {old} and {new}"
  | unsupported word => s!"Value '{word}' is not a supported primitive type"
  | unmergeable => "Cannot merge incompatible container types"
  | noSuchItem | keyless => "list index out of range"
  | notIndex name => s!"Index '{name}' (str) is not an int"
  | badIndex => "invalid index"
  | frozen => "TupleConfig is immutable"
  | stillUnset key => s!"Missing mandatory value: {key}"
  | unknownKey key =>
    let question := suggestion key
    s!"Key '{key}' not in '{Holder.settings.word}'{question}"
  | missing t => s!"Incompatible value 'None' for field of type '{t.word}'"
  | unsuitable t => t.complaint
  | noContainer key way next =>
    s!"Error trying to access {key}: node \x60{way}\x60 is not a container and thus cannot " ++
      s!"contain \x60{next}\x60"
  | beyondRoot key => s!"Error resolving key '{key}'"
  | noSuchKey intro key => s!"{intro}Key not found: '{key}'"
  | unknownReference key rest =>
    let resolved := if key == rest then "" else s!" (resolved to '{rest}')"
    s!"Interpolation key '{key}' not found{resolved}"
  | referenceBeyondRoot key =>
    s!"ConfigKeyError while resolving interpolation: Error resolving key '{key}'"
  | unsetReference key | unsetResult key =>
    s!"MissingMandatoryValue while resolving interpolation: Missing mandatory value: {key}"
  | circular => "Recursive interpolation detected"
  | enclosing => "Interpolation to parent node detected"
  | badPiece source text word =>
    "The following interpolation is used to denote a config key and thus should return a string " ++
      s!"or integer, but instead returned \x60{text}\x60 of type \x60<class '{word}'>\x60: {source}"
  | badName source text word =>
    s!"The name of a resolver must be a string, but the interpolation {source} resolved to " ++
      s!"\x60{text}\x60 which is of type <class '{word}'>"
  | unknownFunction name => s!"Unsupported interpolation type {name}"
  | misused _ text => text
  | noObject word => s!"Object of unsupported type: '{word}'"
  | overlong => overlongText
  | tooDeep => "maximum recursion depth exceeded"
  | unreadable text e => e.message (Yaml.withoutOrderMark text.toList)
  | unsuitableResult template f => s!"While dereferencing interpolation '{template}': {f.message}"
  | raised f => s!"{f.word} raised while resolving interpolation: {f.message}"
  | about n f => (Text.Placeholder.fill (placeholder n) f.message).getD "" ++ placeText n

/-! ### Places -/

/-- Note the place of a fault, unless one is noted.  What is too long or too deep has no
    place, and the text of a fault may ask for a value that is too long. -/
def place (n : Note) (f : Fault) : Fault :=
  match f with
  | about _ _ | overlong | tooDeep => f
  | f => if (Text.Placeholder.fill (placeholder n) f.message).isSome then about n f else overlong

/-- A fault without the note of its place. -/
def bare : Fault → Fault
  | about _ f => f
  | f => f

/-- A fault that comes up while a template is filled is one of the template. -/
def asResolution (f : Fault) : Fault := if f.isResolution then f else raised f

end Fault

/-- The note about a key and its value at a site. -/
def Site.note (s : Site) (key : Option Scalar) (held : Bool) (v : Value) : Note where
  fullKey := s.fullKey (key.bind Scalar.text?)
  holder := some s.holder
  key := ((key.getD .null).text?).getD ""
  keyWord := (key.getD .null).kindWord
  value := text? held v
  valueWord := kindWord held v

/-- Note a place for a fault. -/
def located {α : Type} (n : Note) (x : Except Fault α) : Except Fault α :=
  x.mapError (Fault.place n)

end Chip8.Settings
