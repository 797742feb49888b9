import Playbook.Suite

/-! # Suites as XML documents

A suite is reported as a document: an element for the suite that holds one element for each outcome,
which holds the failure if there was one. Elements without content are written as empty tags, and
elements that hold elements are indented. -/

namespace Playbook

/-- An element of a document: attributes in order, and either elements or text inside. -/
inductive XmlElement where
  | mk (tag : Text) (attributes : List (Text × Text)) (text : Text)
      (children : List XmlElement)
deriving Repr

namespace Xml

/-- Write a character inside text. -/
def textChar (c : CodePoint) : List CodePoint :=
  if c = '&' then ['&', 'a', 'm', 'p', ';']
  else if c = '<' then ['&', 'l', 't', ';']
  else if c = '>' then ['&', 'g', 't', ';']
  else [c]

/-- Write a character inside the value of an attribute, where line ends and tabs are written by their
codes so that they are read back. -/
def valueChar (c : CodePoint) : List CodePoint :=
  if c = '"' then ['&', 'q', 'u', 'o', 't', ';']
  else if c = '\r' then ['&', '#', '1', '3', ';']
  else if c = '\n' then ['&', '#', '1', '0', ';']
  else if c = '\t' then ['&', '#', '0', '9', ';']
  else textChar c

/-- Write text. -/
def writeText (text : Text) : Text := Text.ofList (text.toList.flatMap textChar)

/-- Write the value of an attribute between its quotes. -/
def writeValue (value : Text) : Text := Text.ofList (value.toList.flatMap valueChar)

/-- Write attributes, a space before each. -/
def writeAttributes (attributes : List (Text × Text)) : Text :=
  Text.join (attributes.map fun (name, value) => " " ++ name ++ "=\"" ++ writeValue value ++ "\"")

/-- The start of a line at some depth. -/
def indent (depth : Nat) : Text := "\n" ++ Text.ofList (List.replicate (2 * depth) ' ')

mutual

/-- Write an element that stands at some depth. -/
def write (depth : Nat) : XmlElement → Text
  | .mk tag attributes text [] =>
      if text = "" then "<" ++ tag ++ writeAttributes attributes ++ " />"
      else
        "<" ++ tag ++ writeAttributes attributes ++ ">" ++ writeText text ++ "</" ++ tag ++ ">"
  | .mk tag attributes _ (child :: children) =>
      "<" ++ tag ++ writeAttributes attributes ++ ">" ++ writeAll (depth + 1) (child :: children)
        ++ indent depth ++ "</" ++ tag ++ ">"

/-- Write elements at some depth, each on a line of its own. -/
def writeAll (depth : Nat) : List XmlElement → Text
  | [] => ""
  | element :: rest => indent depth ++ write depth element ++ writeAll depth rest

end

/-- The line that opens a document. -/
def declaration : Text := "<?xml version=\"1.0\" encoding=\"UTF-8\"?>\n"

/-- Write a document with the given element. -/
def document (root : XmlElement) : Text := declaration ++ write 0 root ++ "\n"

end Xml

variable {τ : Type} [TimeScale τ]

/-- The number of decimal places of times in a document. -/
def Xml.places : Nat := 3

/-- The element of a failed outcome: what went wrong, with a general word where nothing is known. -/
def Outcome.failureElement (outcome : Outcome τ) : XmlElement :=
  let message : Text := if outcome.error = "" then "action failed" else outcome.error
  let type : Text := if outcome.errorType = "" then "ActionFailed" else outcome.errorType
  .mk "failure" [("message", message), ("type", type)] outcome.error []

/-- The element of an outcome. -/
def Outcome.element (outcome : Outcome τ) : XmlElement :=
  .mk "testcase"
    [("classname", outcome.className), ("name", outcome.name),
      ("time", TimeScale.fixed Xml.places outcome.time)]
    "" (if outcome.success then [] else [outcome.failureElement])

/-- The element of a suite. -/
def Suite.element (suite : Suite τ) : XmlElement :=
  .mk "testsuite"
    [("name", suite.name), ("tests", toString suite.tests), ("failures", toString suite.failures),
      ("disabled", "0"), ("time", TimeScale.fixed Xml.places suite.time)]
    "" (suite.cases.map Outcome.element)

/-- The document that reports a suite. -/
def Suite.xml (suite : Suite τ) : Text := Xml.document suite.element

end Playbook
