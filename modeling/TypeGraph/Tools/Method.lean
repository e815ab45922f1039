import TypeGraph.Data.Value
import TypeGraph.Tools.Resource

/-!
# Methods of the tool protocol

The protocol knows a number of methods and says for each of them what its parameters hold.  A field
is required or optional, and null is as good as a missing optional one; fields that the protocol
does not name are free.
-/

namespace TypeGraph.Method

structure Field where
  name : String
  isRequired : Bool
  accepts : Value → Bool

def need (name : String) (accepts : Value → Bool) : Field := ⟨name, true, accepts⟩

def may (name : String) (accepts : Value → Bool) : Field where
  name
  isRequired := false
  accepts
    | .null => true
    | v => accepts v

def entries? : Value → Option (List (String × Value))
  | .null => some []
  | .mapping entries => Value.named? entries
  | _ => none

def areFields (fields : List Field) (values : List (String × Value)) : Bool :=
  fields.all fun f => ((values.lookup f.name).map f.accepts).getD (!f.isRequired)

/-! ## Kinds of values -/

def isText (v : Value) : Bool := v.text?.isSome

def isOneOf (texts : List String) (v : Value) : Bool := v.text?.any texts.contains

def isMapping : Value → Bool
  | .mapping _ => true
  | _ => false

def isRecord (fields : List Field) (v : Value) : Bool :=
  isMapping v && (entries? v).any (areFields fields)

def isTextMapping (v : Value) : Bool :=
  isMapping v && (entries? v).any fun values => values.all fun (_, value) => isText value

def isInteger : Value → Bool
  | .int _ => true
  | _ => false

/-- Whether a double precision number is an integer of 64 bits. -/
def isWhole : Binary64 → Bool
  | .finite _ m e =>
    let (num, den) := Binary64.ratio m e
    num % den = 0 && num < den * 0x8000000000000000
  | _ => false

/-- Whether a value may mark the progress of a request: a text, or whatever counts as an integer. -/
def isToken : Value → Bool
  | .text _ | .int _ | .bool _ => true
  | .real x => isWhole x
  | _ => false

def isResource (v : Value) : Bool := v.text?.any Resource.isAddress

/-! ## Methods -/

def commonFields : List Field :=
  [may "_meta" (isRecord [may "progressToken" isToken]),
   may "task" (isRecord [may "ttl" isInteger])]

def pageFields : List Field := [may "cursor" isText]

def levelNames : List String :=
  ["debug", "info", "notice", "warning", "error", "critical", "alert", "emergency"]

/-- Whether a value refers to what a completion is for: a prompt by name or a resource. -/
def isReference (v : Value) : Bool :=
  isRecord [need "type" (isOneOf ["ref/resource"]), need "uri" isText] v ||
    isRecord [need "type" (isOneOf ["ref/prompt"]), need "name" isText] v

def known : List (String × List Field) :=
  [("ping", []),
   ("tools/list", pageFields),
   ("tools/call", [need "name" isText, may "arguments" isMapping]),
   ("resources/list", pageFields),
   ("resources/templates/list", pageFields),
   ("resources/read", [need "uri" isResource]),
   ("resources/subscribe", [need "uri" isResource]),
   ("resources/unsubscribe", [need "uri" isResource]),
   ("prompts/list", pageFields),
   ("prompts/get", [need "name" isText, may "arguments" isTextMapping]),
   ("completion/complete",
    [need "ref" isReference, need "argument" (isRecord [need "name" isText, need "value" isText]),
     may "context" (isRecord [may "arguments" isTextMapping])]),
   ("logging/setLevel", [need "level" (isOneOf levelNames)]),
   ("tasks/list", pageFields),
   ("tasks/get", [need "taskId" isText]),
   ("tasks/result", [need "taskId" isText]),
   ("tasks/cancel", [need "taskId" isText])]

/-- The parameters of a request by name, if the protocol knows the method and they are right. -/
def check? (method : String) (params : Value) : Option (List (String × Value)) := do
  let fields ← known.lookup method
  let values ← entries? params
  if areFields (commonFields ++ fields) values then some values else none

end TypeGraph.Method
