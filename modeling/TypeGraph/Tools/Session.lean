import TypeGraph.Tools.Basic
import TypeGraph.Tools.Method

/-!
# A session with the tool server

The server answers requests until its input ends.  The arguments of a tool call are checked against
the schema of the tool before the tool runs; a call that fails is answered with the text of its
error.
-/

namespace TypeGraph.Session

def serverName : String := "gouml-mcp"

def serverVersion : String := "0.1.0"

/-! ## Checking arguments -/

def valueProblem (p : Tool.Parameter) (v : Value) : Option String :=
  match v with
  | .text s =>
    if p.choices = [] ∨ p.choices.contains s then none
    else
      let choices := (Value.list (p.choices.map .text)).literal
      some (v.literal ++ " is not one of " ++ choices)
  | _ => some (v.literal ++ " is not of type 'string'")

/-- What is wrong with the arguments of a tool.  A missing argument is told before a wrong one, and
of several wrong ones the last. -/
def argumentProblem (t : Tool) (arguments : List (String × Value)) : Option String :=
  if (arguments.lookup Tool.code.name).isNone then
    some (Text.quoted Tool.code.name ++ " is a required property")
  else
    (t.parameters.filterMap fun p =>
      (arguments.lookup p.name).bind (valueProblem p)).getLast?

/-! ## Requests -/

inductive Answer where
  /-- The tools on offer. -/
  | tools
  /-- The text of a tool, and whether it is that of an error. -/
  | called (isError : Bool) (text : String)
  /-- The answer to a ping. -/
  | pong
  /-- A protocol error. -/
  | failed (code : Int)
deriving DecidableEq, Repr

def invalidParams : Int := -32602

def methodNotFound : Int := -32601

def callTool (settings : Settings) (name : String) (arguments : List (String × Value))
    (server : Server) : Answer × List Request :=
  match (Tool.ofName? name).bind (argumentProblem · arguments) with
  | some problem => (.called true ("Input validation error: " ++ problem), [])
  | none =>
    let call := Tool.call (some settings) name arguments server
    match call.result with
    | .ok v => (.called false (Json.print v), call.requests)
    | .error e => (.called true e.message, call.requests)

/-- Answers a request.  The server offers tools only. -/
def respond (settings : Settings) (method : String) (params : Value) (server : Server) :
    Answer × List Request :=
  match Method.check? method params with
  | none => (.failed invalidParams, [])
  | some values =>
    if method = "ping" then (.pong, [])
    else if method = "tools/list" then (.tools, [])
    else if method = "tools/call" then
      let name := ((values.lookup "name").bind Value.text?).getD ""
      let arguments := (Method.entries? ((values.lookup "arguments").getD .null)).getD []
      callTool settings name arguments server
    else (.failed methodNotFound, [])

/-- Answers requests in turn; the requests to the rendering server are counted through. -/
def respondAll (settings : Settings) (server : Server) :
    List (String × Value) → List Answer × List Request
  | [] => ([], [])
  | (method, params) :: rest =>
    let (answer, requests) := respond settings method params server
    let (answers, more) := respondAll settings (server.after requests.length) rest
    (answer :: answers, requests ++ more)

end TypeGraph.Session
