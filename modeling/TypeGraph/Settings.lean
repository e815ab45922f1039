import TypeGraph.Data.Value
import TypeGraph.Number.Numeral
import TypeGraph.Rendering
import TypeGraph.Text.Case

/-!
# Settings

Settings are read from named data values, each field by its own rule, and every field that breaks
its rule is reported.  Names that are not fields are passed over, and a field that is not given has
its default.
-/

namespace TypeGraph

structure Settings where
  rendererUrl : String := "https://mermaid.ink"
  outputFormat : ImageFormat := .svg
  theme : Option String := some "default"
  timeout : Binary64 := Binary64.ofInt 30
  logLevel : String := "WARNING"
deriving DecidableEq, Repr

inductive SettingsField where
  | rendererUrl
  | outputFormat
  | theme
  | timeout
  | logLevel
deriving DecidableEq, Repr

def SettingsField.label : SettingsField → String
  | .rendererUrl => "renderer_url"
  | .outputFormat => "output_format"
  | .theme => "theme"
  | .timeout => "timeout"
  | .logLevel => "log_level"

def SettingsField.ofLabel? (name : String) : Option SettingsField :=
  [.rendererUrl, .outputFormat, .theme, .timeout, .logLevel].find? (·.label = name)

/-- The formats that settings may name.  Those that a renderer takes are listed with it. -/
def outputFormats : List ImageFormat := [.svg, .png]

inductive FieldProblem where
  | notText
  | undecodableText
  | notNumber
  | unreadableNumber
  | notPositive
  | unknownFormat
  | tooLongInteger
deriving DecidableEq, Repr

def FieldProblem.code : FieldProblem → String
  | .notText => "string_type"
  | .undecodableText => "string_unicode"
  | .notNumber => "float_type"
  | .unreadableNumber => "float_parsing"
  | .notPositive => "greater_than"
  | .unknownFormat | .tooLongInteger => "value_error"

def FieldProblem.message : FieldProblem → String
  | .notText => "Input should be a valid string"
  | .undecodableText =>
    "Input should be a valid string, unable to parse raw data as a unicode string"
  | .notNumber => "Input should be a valid number"
  | .unreadableNumber => "Input should be a valid number, unable to parse string as a number"
  | .notPositive => "Input should be greater than 0"
  | .unknownFormat =>
    "Value error, output_format must be one of " ++ ", ".intercalate (outputFormats.map (·.label))
  | .tooLongInteger =>
    s!"Value error, Exceeds the limit ({Integer.maxDigits} digits) for integer string " ++
      "conversion; use sys.set_int_max_str_digits() to increase the limit"

structure FieldError where
  field : SettingsField
  problem : FieldProblem
deriving DecidableEq, Repr

namespace Settings

/-- A text, given as such or as bytes of one. -/
def readText : Value → Except FieldProblem String
  | .text s => .ok s
  | .bytes b =>
    match Utf8.decode? b with
    | some s => .ok s
    | none => .error .undecodableText
  | .codes _ => .error .undecodableText
  | _ => .error .notText

def readOptionalText : Value → Except FieldProblem (Option String)
  | .null => .ok none
  | v => (readText v).map some

/-- The text that a value displays, unless an integer in it is too long. -/
def displayed (v : Value) : Except FieldProblem String :=
  if v.holdsTooLong then .error .tooLongInteger else .ok v.display

/-- A format by its name in any case, from whatever value displays that way. -/
def readFormat (v : Value) : Except FieldProblem ImageFormat := do
  let name := Text.lowerCase (← displayed v)
  match outputFormats.find? (·.label = name) with
  | some format => return format
  | none => throw .unknownFormat

def readNumeral (s : String) : Except FieldProblem Binary64 :=
  match Numeral.read? s with
  | some x => .ok x
  | none => .error .unreadableNumber

/-- A number, given as such, as a truth value or as a numeral.  An integer beyond the range of
doubles is no number here. -/
def readNumber : Value → Except FieldProblem Binary64
  | .real x => .ok x
  | .bool b => .ok (Binary64.ofInt (if b then 1 else 0))
  | .int n =>
    match Binary64.ofInt n with
    | .infinite _ => .error .notNumber
    | x => .ok x
  | .text s => readNumeral s
  | .bytes b =>
    match Utf8.decode? b with
    | some s => readNumeral s
    | none => .error .unreadableNumber
  | .codes _ => .error .undecodableText
  | _ => .error .notNumber

def readPositive (v : Value) : Except FieldProblem Binary64 := do
  let x ← readNumber v
  if x.isPositive then return x else throw .notPositive

/-- A name in upper case, from whatever value. -/
def readLevel (v : Value) : Except FieldProblem String :=
  match v with
  | .codes _ => .error .undecodableText
  | v => (displayed v).map Text.upperCase

/-- The value of a field by its rule, or its default when it is not given. -/
def readField {α : Type} (data : List (String × Value)) (field : SettingsField) (default : α)
    (rule : Value → Except FieldProblem α) : Except FieldError α :=
  match data.lookup field.label with
  | none => .ok default
  | some v =>
    match rule v with
    | .ok a => .ok a
    | .error problem => .error ⟨field, problem⟩

def fieldErrors {α : Type} : Except FieldError α → List FieldError
  | .ok _ => []
  | .error e => [e]

/-- Reads settings; on failure, every field at fault is reported in the order of the fields. -/
def ofData (data : List (String × Value)) : Except (List FieldError) Settings :=
  let standard : Settings := {}
  let url := readField data .rendererUrl standard.rendererUrl readText
  let format := readField data .outputFormat standard.outputFormat readFormat
  let theme := readField data .theme standard.theme readOptionalText
  let timeout := readField data .timeout standard.timeout readPositive
  let level := readField data .logLevel standard.logLevel readLevel
  match url, format, theme, timeout, level with
  | .ok url, .ok format, .ok theme, .ok timeout, .ok level =>
    .ok ⟨url, format, theme, timeout, level⟩
  | url, format, theme, timeout, level =>
    .error (fieldErrors url ++ fieldErrors format ++ fieldErrors theme ++ fieldErrors timeout ++
      fieldErrors level)

def toData (s : Settings) : List (String × Value) :=
  [(SettingsField.rendererUrl.label, .text s.rendererUrl),
   (SettingsField.outputFormat.label, .text s.outputFormat.label),
   (SettingsField.theme.label, (s.theme.map Value.text).getD .null),
   (SettingsField.timeout.label, .real s.timeout),
   (SettingsField.logLevel.label, .text s.logLevel)]

/-- The settings with another image format, read from a value by the same rules. -/
def withFormat (s : Settings) (format : Value) : Except (List FieldError) Settings :=
  ofData ((SettingsField.outputFormat.label, format) :: s.toData)

def renderer (s : Settings) : Renderer := Renderer.of s.rendererUrl s.outputFormat s.theme

end Settings

end TypeGraph
