import Flowgraph.Context
import Flowgraph.Text.Search
import Flowgraph.Value.Printer
/-!
# Templates

A text may hold expressions in `${…}`. The innermost expression of the first one is resolved
against a context, its value written in its place as plain text, and the search starts over. A
text that is one expression from end to end has the value of that expression, of whatever type;
every other text has a text.

Main definitions: `Template.resolve`, `Template.innermost?`, `Template.expand`,
`Template.evaluate`, `Template.evaluateValue`.
Main statement: `innermost?_eq_some`.
-/

namespace Flowgraph.Template

/-- The mark that opens an expression. -/
def openMark : List Char := ['$', '\x7b']

/-- The mark that closes an expression. -/
def closeMark : List Char := ['\x7d']

/-! ## Expressions -/

/-- One step into a value: by name into a map, by index into a list. -/
def child? (v : Value) (segment : List Char) : Option Value :=
  match v with
  | .map fields => Keyed.get? (String.ofList segment) fields
  | .list items => (Number.readUnsigned? segment).bind fun i => items[i]?
  | _ => none

/-- The value at the end of a path, null where the path leads nowhere. -/
def navigate : Value → List (List Char) → Value
  | v, [] => v
  | v, segment :: rest =>
    match child? v segment with
    | some v => navigate v rest
    | none => .null

/-- The value of a path whose first segment names an entry of the context. -/
def resolvePath (c : Context) (path : List (List Char)) : Value :=
  match path with
  | [] => .null
  | root :: rest =>
    match c.get? (String.ofList root), rest with
    | some (.data v), rest => navigate v rest
    | some (.object _ snapshot), [] => snapshot
    | some (.object member _), name :: rest =>
      match member (String.ofList name) with
      | some v => navigate v rest
      | none => .null
    | _, _ => .null

/-- The argument texts between the parentheses of a call, a missing closing one being optional. -/
def argumentTexts (cs : List Char) : List String :=
  let inner := if cs.getLast? = some ')' then cs.dropLast else cs
  if inner.isEmpty then [] else (inner.splitOn ',').map String.ofList

/-- The value of the body of an expression: a call when the text before the first parenthesis
names a function, a path of segments between dots otherwise. -/
def resolve (c : Context) (body : List Char) : Value :=
  match Text.cutAt? ['('] body with
  | some (name, arguments) =>
    match c.get? (String.ofList name) with
    | some (.function call) => call (argumentTexts arguments)
    | _ => resolvePath c (body.splitOn '.')
  | none => resolvePath c (body.splitOn '.')

/-! ## Spans -/

/-- The text before and after the last occurrence of `mark`. -/
def cutAtLast? (mark : List Char) : List Char → Option (List Char × List Char)
  | [] => none
  | c :: cs =>
    match cutAtLast? mark cs with
    | some (before, after) => some (c :: before, after)
    | none =>
      if mark.isPrefixOf (c :: cs) then some ([], (c :: cs).drop mark.length) else none

/-- An expression inside a text. -/
structure Span where
  before : List Char
  body : List Char
  after : List Char

namespace Span

/-- The whole text of which the span is a part. -/
def text (s : Span) : List Char :=
  s.before ++ openMark ++ s.body ++ closeMark ++ s.after

/-- Whether the expression is the whole text. -/
def isWhole (s : Span) : Bool :=
  s.before.isEmpty && s.after.isEmpty

/-- The text with another one in place of the expression. -/
def splice (s : Span) (replacement : List Char) : List Char :=
  s.before ++ replacement ++ s.after

end Span

/-- The expression that is resolved next: up to the first closing mark behind the first opening
one, from the last opening mark before that. -/
def innermost? (cs : List Char) : Option Span := do
  let (before, rest) ← Text.cutAt? openMark cs
  let (inside, after) ← Text.cutAt? closeMark rest
  match cutAtLast? openMark inside with
  | some (outer, body) => return ⟨before ++ openMark ++ outer, body, after⟩
  | none => return ⟨before, inside, after⟩

theorem cutAtLast?_eq_some {mark cs before after : List Char}
    (h : cutAtLast? mark cs = some (before, after)) : cs = before ++ mark ++ after := by
  induction cs generalizing before after with
  | nil => simp [cutAtLast?] at h
  | cons c cs ih =>
    cases hc : cutAtLast? mark cs with
    | some parts =>
      obtain ⟨b, a⟩ := parts
      simp only [cutAtLast?, hc, Option.some.injEq, Prod.mk.injEq] at h
      obtain ⟨rfl, rfl⟩ := h
      simp [ih hc]
    | none =>
      by_cases hm : mark.isPrefixOf (c :: cs)
      · simp only [cutAtLast?, hc, hm, if_true, Option.some.injEq, Prod.mk.injEq] at h
        obtain ⟨rest, hrest⟩ := List.isPrefixOf_iff_prefix.1 hm
        obtain ⟨rfl, rfl⟩ := h
        simp [← hrest]
      · simp [cutAtLast?, hc, hm] at h

/-- The parts of the span make up the text. -/
theorem innermost?_eq_some {cs : List Char} {s : Span} (h : innermost? cs = some s) :
    s.text = cs := by
  simp only [innermost?, Option.bind_eq_bind, Option.bind_eq_some_iff] at h
  obtain ⟨⟨before, rest⟩, hopen, ⟨inside, after⟩, hclose, h⟩ := h
  have htext := Text.cutAt?_eq_some hopen
  have hrest : rest = inside ++ closeMark ++ after := Text.cutAt?_eq_some hclose
  cases hlast : cutAtLast? openMark inside with
  | none =>
    simp only [hlast, Option.pure_def, Option.some.injEq] at h
    subst h
    simp [Span.text, htext, hrest]
  | some parts =>
    obtain ⟨outer, body⟩ := parts
    simp only [hlast, Option.pure_def, Option.some.injEq] at h
    subst h
    simp [Span.text, htext, hrest, cutAtLast?_eq_some hlast]

/-! ## Evaluation -/

/-- Resolves expressions until none is left, one is the whole text, or `budget` of them have been
replaced. -/
def expand (c : Context) : Nat → List Char → Value
  | budget, cs =>
    match innermost? cs with
    | none => .text (String.ofList cs)
    | some span =>
      let resolved := resolve c span.body
      if span.isWhole then resolved
      else
        match budget with
        | 0 => .text (String.ofList cs)
        | budget + 1 => expand c budget (span.splice resolved.stringify.toList)

/-- How many replacements the evaluation of a text may make: one more than its bytes. -/
def budgetOf (s : String) : Nat :=
  s.utf8ByteSize + 1

/-- The value of a text with its expressions resolved. -/
def evaluate (c : Context) (s : String) : Value :=
  expand c (budgetOf s) s.toList

mutual

/-- A value with every text in it evaluated. -/
def evaluateValue (c : Context) : Value → Value
  | .text s => evaluate c s
  | .list items => .list (evaluateItems c items)
  | .map fields => .map (evaluateFields c fields)
  | v => v

/-- A list with every text in it evaluated. -/
def evaluateItems (c : Context) : List Value → List Value
  | [] => []
  | v :: rest => evaluateValue c v :: evaluateItems c rest

/-- A map with every text in it evaluated; the names are no templates. -/
def evaluateFields (c : Context) : List (String × Value) → List (String × Value)
  | [] => []
  | (k, v) :: rest => (k, evaluateValue c v) :: evaluateFields c rest

end

end Flowgraph.Template
