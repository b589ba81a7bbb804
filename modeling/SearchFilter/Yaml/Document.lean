import SearchFilter.Yaml.Node.Reader
import SearchFilter.Yaml.Token.Reader

/-!
# Documents

A document is a node, with directives in front of it or not. Settings files hold at
most one document.
-/

namespace SearchFilter
namespace Yaml

/-- Whether a token is a directive. -/
def Token.isDirective (token : Token) : Bool :=
  token matches .directive _

/-- Read the node of a document. Of a few nested calls in turn one takes a token at
least. -/
def readNode? (directive : Option Directive) (tokens : List Token) :
    Option (Node × List Token) :=
  (Reader.node true false (4 * tokens.length + 4) ⟨tokens, directive, []⟩).map
    fun (node, reading) => (node, reading.tokens)

/-- The directives in front of a document. There may be one version among them. -/
def directives? (tokens : List Token) : Option (List Directive) :=
  let directives := tokens.filterMap fun token =>
    match token with
    | .directive directive => some directive
    | _ => none
  if directives.count .version ≤ 1 then some directives else none

/-- Read a document. Directives need the mark of a document after them, and behind the mark
the node may be missing. -/
def readDocument? (tokens : List Token) : Option (Node × List Token) := do
  let directives ← directives? (tokens.takeWhile Token.isDirective)
  match tokens.dropWhile Token.isDirective with
  | .documentStart :: rest =>
      match rest with
      | [] | .documentStart :: _ | .documentEnd :: _ | .directive _ :: _ => some (.null, rest)
      | _ => readNode? directives.getLast? rest
  | rest => if directives.isEmpty then readNode? none rest else none

/-- The node of a text with at most one document. Without one it is an empty mapping. -/
def document? (text : Text) : Option Node := do
  let isEnd (token : Token) : Bool := token == .documentEnd
  match (← tokens? text).dropWhile isEnd with
  | [] => some (.mapping [])
  | tokens =>
      let (node, rest) ← readDocument? tokens
      if rest.all isEnd then some node else none

end Yaml
end SearchFilter
