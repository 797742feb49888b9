import Playbook.Text

/-! # Paths

A path is written with slashes. Its normal form drops empty parts and parts that are a single dot,
and keeps parts that are two dots, which stand for the directory above. Two slashes at the start are
a root of their own, three or more are one. -/

namespace Playbook

/-- A path in normal form. -/
structure Path where
  /-- Nothing, one slash or two. -/
  root : Text
  parts : List Text
deriving Repr, DecidableEq

namespace Path

/-- Cut a list at every place where a separator stands. -/
def splitAt {α : Type} [DecidableEq α] (separator : α) : List α → List (List α)
  | [] => [[]]
  | c :: cs =>
      if c = separator then [] :: splitAt separator cs
      else
        match splitAt separator cs with
        | [] => [[c]]
        | part :: parts => (c :: part) :: parts

/-- The parts of a path between its slashes, empty ones and dots included. -/
def split (text : Text) : List Text := (splitAt (.scalar '/') text.toList).map Text.ofList

/-- The root that a text begins with. -/
def rootOf (text : Text) : Text :=
  match (text.toList.takeWhile (· = .scalar '/')).length with
  | 0 => ""
  | 2 => "//"
  | _ => "/"

/-- The normal form of a path. -/
def ofText (text : Text) : Path :=
  ⟨rootOf text, (split text).filter fun part => part ≠ "" && part ≠ "."⟩

/-- The text of a path; the empty path is a dot. -/
def text (path : Path) : Text :=
  let body := path.root ++ Text.intercalate "/" path.parts
  if body = "" then "." else body

end Path

end Playbook
