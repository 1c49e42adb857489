import TcdOran.Lib.PythonNumber

/-! Regular expressions with named groups, matched as Python's `re` does it: from left to right,
repetitions greedy, the first way that leads to a match. -/
namespace TcdOran.Lib.Python

inductive Regex
  | empty
  | one (holds : ℕ → Bool)
  /-- `P*` of a class of characters. -/
  | star (holds : ℕ → Bool)
  | seq (first second : Regex)
  | alt (first second : Regex)
  /-- `(?:...)?` -/
  | opt (body : Regex)
  | group (name : String) (body : Regex)

/-- The texts of the groups, the last one first. -/
abbrev Captures := List (String × List ℕ)

namespace Regex

/-- As many characters of the class as possible, such that what follows matches. -/
def matchStar {α : Type} (holds : ℕ → Bool) (next : List ℕ → Option α) : List ℕ → Option α
  | [] => next []
  | u :: rest =>
      if holds u then
        match matchStar holds next rest with
        | some a => some a
        | none => next (u :: rest)
      else next (u :: rest)

/-- A match at the front of the text behind which `next` succeeds. -/
def matchThen {α : Type} :
    Regex → Captures → List ℕ → (Captures → List ℕ → Option α) → Option α
  | .empty, captures, text, next => next captures text
  | .one _, _, [], _ => none
  | .one holds, captures, u :: rest, next => if holds u then next captures rest else none
  | .star holds, captures, text, next => matchStar holds (next captures) text
  | .seq first second, captures, text, next =>
      first.matchThen captures text fun captures rest => second.matchThen captures rest next
  | .alt first second, captures, text, next =>
      match first.matchThen captures text next with
      | some a => some a
      | none => second.matchThen captures text next
  | .opt body, captures, text, next =>
      match body.matchThen captures text next with
      | some a => some a
      | none => next captures text
  | .group name body, captures, text, next =>
      body.matchThen captures text fun captures rest =>
        next ((name, text.take (text.length - rest.length)) :: captures) rest

/-- `re.match` with `^P$`; the dollar also matches in front of a line feed at the end. -/
def matchLine (pattern : Regex) (text : List ℕ) : Option Captures :=
  pattern.matchThen [] text fun captures rest =>
    if rest = [] ∨ rest = [10] then some captures else none

def sequence (items : List Regex) : Regex := items.foldr .seq .empty

def literal (text : String) : Regex := sequence ((chars text).map fun v => .one fun u => u = v)

/-- `P+` -/
def plus (holds : ℕ → Bool) : Regex := .seq (.one holds) (.star holds)

/-- `first|second|...` -/
def choice (first : String) (others : List String) : Regex :=
  others.foldl (fun choice text => .alt choice (literal text)) (literal first)

/-- `\d+` -/
def digits : Regex := plus fun u => (digitOf u).isSome

/-- `\d+(?:\.\d+)?` -/
def number : Regex := .seq digits (.opt (.seq (literal ".") digits))

/-- `\s+` -/
def spaces : Regex := plus isSpace

end Regex

example : (Regex.sequence [.group "a" Regex.number, .literal "-", .group "b" .digits]).matchLine
    (chars "1.50-23") = some [("b", chars "23"), ("a", chars "1.50")] := by decide +kernel

end TcdOran.Lib.Python
