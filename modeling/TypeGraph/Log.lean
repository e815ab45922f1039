/-!
# Log records
-/

namespace TypeGraph

inductive Severity where
  | debug
  | info
  | warning
  | error
  | critical
deriving DecidableEq, Repr

/-- The weight of a severity; a log shows the records at or above its threshold. -/
def Severity.weight : Severity → Nat
  | .debug => 10
  | .info => 20
  | .warning => 30
  | .error => 40
  | .critical => 50

def Severity.label : Severity → String
  | .debug => "DEBUG"
  | .info => "INFO"
  | .warning => "WARNING"
  | .error => "ERROR"
  | .critical => "CRITICAL"

inductive Channel where
  | extraction
  | rendering
  | service
deriving DecidableEq, Repr

def Channel.label : Channel → String
  | .extraction => "gouml.extractor.go_parser"
  | .rendering => "gouml.diagram.renderer"
  | .service => "gouml.service"

structure LogRecord where
  severity : Severity
  channel : Channel
  message : String
deriving DecidableEq, Repr

def LogRecord.line (r : LogRecord) : String :=
  r.severity.label ++ " " ++ r.channel.label ++ ": " ++ r.message

end TypeGraph
