import Flowgraph.Yaml.Node
import Flowgraph.Yaml.Scalar
/-!
# Lists and maps in brackets

A list or map in brackets stands on one line, with scalars, lists and maps between commas.

Main definition: `Yaml.readFlow?`.
-/

namespace Flowgraph.Yaml

/-- The plain scalar in front of the next mark inside brackets; `behind` stands before it. -/
def takeFlowPlain (behind : Char) : List Char → List Char × List Char
  | [] => ([], [])
  | c :: rest =>
    if ",[]\x7b\x7d".toList.contains c || (c = '#' && isGap behind) ||
        (c = ':' && (atGap rest || rest.head?.any ",?[]\x7b\x7d".toList.contains))
    then ([], c :: rest)
    else
      let (scalar, rest) := takeFlowPlain c rest
      (c :: scalar, rest)

/-- Whether a text inside brackets may begin a plain scalar. -/
def startsFlowPlain (cs : List Char) : Bool :=
  startsPlain cs && cs.head? != some '?' && cs.head? != some ':'

/-- Reads a name inside brackets with the colon behind it; a blank follows the colon of a plain
name. -/
def readFlowKey? (cs : List Char) : Option (String × List Char) :=
  match readQuoted? cs with
  | some (k, rest) =>
    match skipGap rest with
    | ':' :: rest => some (k, rest)
    | _ => none
  | none =>
    match takeFlowPlain ' ' cs with
    | (scalar, ':' :: rest) =>
      if startsFlowPlain cs && atGap rest then some (String.ofList (trimGap scalar), rest) else none
    | _ => none

mutual

/-- Reads a value inside or in front of brackets. -/
def readFlow? : Nat → List Char → Option (Node × List Char)
  | 0, _ => none
  | fuel + 1, cs =>
    match skipGap cs with
    | '[' :: rest => readFlowItems? fuel [] rest
    | '\x7b' :: rest => readFlowEntries? fuel [] rest
    | cs =>
      match readQuoted? cs with
      | some (s, rest) => some (.scalar s true, rest)
      | none =>
        let (scalar, rest) := takeFlowPlain ' ' cs
        if startsFlowPlain cs then some (.scalar (String.ofList (trimGap scalar)) false, rest)
        else none

/-- Reads the items of a list up to its bracket. -/
def readFlowItems? : Nat → List Node → List Char → Option (Node × List Char)
  | 0, _, _ => none
  | fuel + 1, before, cs =>
    match skipGap cs with
    | ']' :: rest => some (.list before.reverse, rest)
    | cs => do
      let (node, rest) ← readFlow? fuel cs
      match skipGap rest with
      | ',' :: rest => readFlowItems? fuel (node :: before) rest
      | ']' :: rest => some (.list (node :: before).reverse, rest)
      | _ => none

/-- Reads the entries of a map up to its bracket. -/
def readFlowEntries? : Nat → List (String × Node) → List Char → Option (Node × List Char)
  | 0, _, _ => none
  | fuel + 1, before, cs =>
    match skipGap cs with
    | '\x7d' :: rest => some (.map before.reverse, rest)
    | cs => do
      let (k, rest) ← readFlowKey? cs
      let (node, rest) ←
        match skipGap rest with
        | ',' :: rest => some (.scalar "" false, ',' :: rest)
        | '\x7d' :: rest => some (.scalar "" false, '\x7d' :: rest)
        | rest => readFlow? fuel rest
      match skipGap rest with
      | ',' :: rest => readFlowEntries? fuel ((k, node) :: before) rest
      | '\x7d' :: rest => some (.map ((k, node) :: before).reverse, rest)
      | _ => none

end

end Flowgraph.Yaml
