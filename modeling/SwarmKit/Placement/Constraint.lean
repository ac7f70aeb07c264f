import SwarmKit.Lib.Text
import SwarmKit.Ca.Signer

/-
Placement constraints (manager/constraint/constraint.go `Parse`,
`Constraint.Match`, `NodeMatches`).

# The language

An expression is `key op value`, `op` one of `==` and `!=`, tried in that
order: the first operator the expression contains cuts it, where it
first occurs. Both sides are trimmed of white space; the key must match
`alphaNumeric` and the value `valuePattern`. `Parse` reads a list of
expressions and stops at the first one it refuses.

# Matching

`NodeMatches` holds when every constraint holds of the node. A key names
a field of the node (its ID, hostname, address, role, OS, architecture)
or one of its labels, under `node.labels.` or `engine.labels.`; the value
is compared with the field ignoring case, `==` asking for equality and
`!=` for the opposite. A field the node lacks reads as the empty string.
An address is compared as an address or as a network, and a value that
is neither refuses the node whatever the operator; so does a key that
names nothing.

# Reading the source

Go's `(?i)` folds the classes of the two patterns: `[a-z]` also holds
`A` to `Z`, and the other cases of `s` and `k`, `ſ` (U+017F) and the
Kelvin sign (U+212A); `\s` is `[\t\n\f\r ]`. `strings.TrimSpace` trims
what `unicode.IsSpace` holds of. A Go string is its UTF-8 bytes, which
the prefix test of a key slices and the label maps are keyed by
(`bytes`). `strings.EqualFold` and what the code uses of package net are
the operations of an `Env`. `Match`'s `return false` for an operator
other than the two is left out: `Parse` builds no other.
-/

namespace SwarmKit.Placement

open SwarmKit.Ca (NodeRole)

-- ===================== constraints

/-- The operators, `eq` and `noteq`. -/
inductive Op
  | eq
  | noteq
  deriving DecidableEq, Repr

/-- `operators`, each with the index `Parse` records. -/
def operators : List (Op × String) := [(.eq, "=="), (.noteq, "!=")]

/-- `Constraint`. -/
structure Constraint where
  key : String
  operator : Op
  exp : String
  deriving DecidableEq, Repr

-- ====================== characters

/-- `unicode.IsSpace`: the Latin-1 spaces, then the rest of
`White_Space`. -/
def isSpace (c : Char) : Bool :=
  ('\t' ≤ c && c ≤ '\r') || c = ' ' || c = '\x85' || c = '\xa0' || c = '\u1680' ||
    ('\u2000' ≤ c && c ≤ '\u200a') || c = '\u2028' || c = '\u2029' || c = '\u202f' ||
    c = '\u205f' || c = '\u3000'

/-- `strings.TrimSpace`. -/
def trimSpace (s : String) : String := String.ofList (Text.trim isSpace s.toList)

/-- `[a-z]` under `(?i)`. -/
def isFoldedLetter (c : Char) : Bool :=
  ('a' ≤ c && c ≤ 'z') || ('A' ≤ c && c ≤ 'Z') || c = 'ſ' || c = 'K'

def isDigit (c : Char) : Bool := '0' ≤ c && c ≤ '9'

/-- `[a-z_]`, the first character of a key. -/
def isKeyStart (c : Char) : Bool := isFoldedLetter c || c = '_'

/-- `[a-z0-9\-_.]`, the characters of a key after the first. -/
def isKeyChar (c : Char) : Bool := isFoldedLetter c || isDigit c || c = '-' || c = '_' || c = '.'

/-- `[a-z0-9:\-_\s\.\*\(\)\?\+\[\]\\\^\$\|\/]`, the characters of a value. -/
def isValueChar (c : Char) : Bool :=
  isFoldedLetter c || isDigit c ||
    [':', '-', '_', '\t', '\n', '\x0c', '\r', ' ', '.', '*', '(', ')', '?', '+', '[', ']', '\\', '^',
      '$', '|', '/'].contains c

/-- `alphaNumeric.MatchString`: `^(?i)[a-z_][a-z0-9\-_.]+$`. -/
def matchKey (s : String) : Bool :=
  match s.toList with
  | c :: rest => isKeyStart c && !rest.isEmpty && rest.all isKeyChar
  | [] => false

/-- `valuePattern.MatchString`. -/
def matchValue (s : String) : Bool := !s.toList.isEmpty && s.toList.all isValueChar

-- =========================== Parse

/-- One expression of `Parse`, against the operators from `ops` on. -/
def parseExpr (e : String) : List (Op × String) → Except String Constraint
  | [] => .error ("constraint expected one operator from " ++ ", ".intercalate (operators.map (·.2)))
  | (i, op) :: ops =>
    if ¬ op.toList <:+: e.toList then parseExpr e ops
    else
      match Text.cut op.toList e.toList with
      -- `len(parts) < 2`, which `strings.Contains` rules out
      | none => .error ("invalid expr: " ++ e)
      | some (p0, p1) =>
        let part0 := trimSpace (String.ofList p0)
        if !matchKey part0 then .error ("key '" ++ part0 ++ "' is invalid")
        else
          let part1 := trimSpace (String.ofList p1)
          if !matchValue part1 then .error ("value '" ++ part1 ++ "' is invalid")
          else .ok ⟨part0, i, part1⟩

/-- `Parse(env)`. -/
def parse (env : List String) : Except String (List Constraint) :=
  env.mapM fun e => parseExpr e operators

-- =========================== nodes

/-- A Go string as its bytes. -/
def bytes (s : String) : List UInt8 := s.toList.flatMap String.utf8EncodeChar

/-- `api.Platform`. -/
structure Platform where
  os : String
  architecture : String
  deriving DecidableEq, Repr

/-- What `NodeMatches` reads of `api.NodeDescription`. -/
structure Description where
  hostname : String
  platform : Option Platform
  /-- `Engine.Labels`, `none` when the engine or its map is nil. -/
  engineLabels : Option (List (String × String))
  deriving DecidableEq, Repr

/-- What `NodeMatches` reads of an `api.Node`. -/
structure Node where
  id : String
  description : Option Description
  /-- `Status.Addr`. -/
  addr : String
  role : NodeRole
  /-- `Spec.Annotations.Labels`, `none` for a nil map. -/
  labels : Option (List (String × String))
  deriving DecidableEq, Repr

/-- `NodeRole.String()`. -/
def roleString : NodeRole → String
  | .worker => "WORKER"
  | .manager => "MANAGER"

/-- `m[label]` of a map keyed by strings: the value of the first entry
with those bytes, the empty string when there is none. -/
def lookupLabel (m : List (String × String)) (label : List UInt8) : String :=
  ((m.find? fun kv => bytes kv.1 = label).map (·.2)).getD ""

/-- `strings.EqualFold` and what `NodeMatches` uses of package net, at a
type of addresses and one of networks. -/
structure Env (IP Net : Type) where
  equalFold : List UInt8 → List UInt8 → Bool
  parseIP : String → Option IP
  /-- `ip.Equal(x)`, `x` nil when it did not parse. -/
  ipEqual : IP → Option IP → Bool
  /-- `net.ParseCIDR`'s network. -/
  parseCIDR : String → Option Net
  /-- `subnet.Contains(ip)`. -/
  contains : Net → Option IP → Bool

variable {IP Net : Type} (env : Env IP Net)

/-- `c.Match(whats...)`: whether some string equals the value ignoring
case, negated for `!=`. -/
def Constraint.matches (c : Constraint) (whats : List String) : Bool :=
  let m := whats.any fun what => env.equalFold (bytes c.exp) (bytes what)
  match c.operator with
  | .eq => m
  | .noteq => !m

/-- The test of an address or a network: `false` returns from
`NodeMatches`. -/
def agrees (holds : Bool) (op : Op) : Bool := !((holds && op ≠ .eq) || (!holds && op = .eq))

/-- The `node.ip` case. -/
def matchesIP (c : Constraint) (n : Node) : Bool :=
  let nodeIP := env.parseIP n.addr
  match env.parseIP c.exp with
  | some ip => agrees (env.ipEqual ip nodeIP) c.operator
  | none =>
    match env.parseCIDR c.exp with
    | some subnet => agrees (env.contains subnet nodeIP) c.operator
    -- a malformed address or network
    | none => false

/-- The two label cases: the label under `pfx`, in a map that may be
nil. -/
def matchesLabel (c : Constraint) (pfx : String) (m : Option (List (String × String))) : Bool :=
  match m with
  | none => c.matches env [""]
  | some labels => c.matches env [lookupLabel labels ((bytes c.key).drop (bytes pfx).length)]

/-- Whether the key starts with `pfx` ignoring case, and goes on past it. -/
def hasPrefixFold (key pfx : String) : Bool :=
  decide ((bytes pfx).length < (bytes key).length) &&
    env.equalFold ((bytes key).take (bytes pfx).length) (bytes pfx)

/-- `NodeLabelPrefix`. -/
def NodeLabelPrefix : String := "node.labels."

/-- `EngineLabelPrefix`. -/
def EngineLabelPrefix : String := "engine.labels."

/-- One constraint of `NodeMatches`, the cases of its `switch` in order. -/
def matchesOne (c : Constraint) (n : Node) : Bool :=
  let keyIs (name : String) := env.equalFold (bytes c.key) (bytes name)
  if keyIs "node.id" then c.matches env [n.id]
  else if keyIs "node.hostname" then
    match n.description with
    | none => c.matches env [""]
    | some d => c.matches env [d.hostname]
  else if keyIs "node.ip" then matchesIP env c n
  else if keyIs "node.role" then c.matches env [roleString n.role]
  else if keyIs "node.platform.os" then
    match n.description.bind (·.platform) with
    | none => c.matches env [""]
    | some p => c.matches env [p.os]
  else if keyIs "node.platform.arch" then
    match n.description.bind (·.platform) with
    | none => c.matches env [""]
    | some p => c.matches env [p.architecture]
  else if hasPrefixFold env c.key NodeLabelPrefix then matchesLabel env c NodeLabelPrefix n.labels
  else if hasPrefixFold env c.key EngineLabelPrefix then
    matchesLabel env c EngineLabelPrefix (n.description.bind (·.engineLabels))
  -- the key does not match the predefined syntax
  else false

/-- `NodeMatches(constraints, n)`. -/
def nodeMatches (constraints : List Constraint) (n : Node) : Bool :=
  constraints.all fun c => matchesOne env c n

end SwarmKit.Placement
