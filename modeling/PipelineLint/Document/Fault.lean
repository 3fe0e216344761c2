import PipelineLint.Text.Quoted

set_option autoImplicit false

namespace PipelineLint.Document

inductive Complaint where
  | afterQuoted (rest : List Char)
  | unterminatedQuoted (text : List Char)
  | afterFlow (rest : List Char)
  | unterminatedFlow
  | expectedInFlow (c : Char) (text : List Char)
  | strayItem (content : List Char)
  | expectedItem (content : List Char)
  | expectedEntry (content : List Char)
  | afterDocument
deriving DecidableEq

inductive Fault where
  | malformed (complaint : Complaint) (line : Option Nat)
  | badEscape
  | integerTooLong
  | collectionAsKey
deriving DecidableEq

def shown (text : List Char) : String :=
  String.ofList (Text.quoted text)

def Complaint.reason : Complaint → String
  | .afterQuoted rest => "unexpected text after quoted string: " ++ shown rest
  | .unterminatedQuoted text => "unterminated quoted string: " ++ shown text
  | .afterFlow rest => "unexpected text after flow collection: " ++ shown rest
  | .unterminatedFlow => "unterminated flow collection"
  | .expectedInFlow c text => "expected " ++ shown [c] ++ " in flow collection " ++ shown text
  | .strayItem content => "unexpected list item " ++ shown content
  | .expectedItem content => "expected '- item', got " ++ shown content
  | .expectedEntry content => "expected 'key: value' or '- item', got " ++ shown content
  | .afterDocument => "unexpected content after the end of the document"

def complaintMessage (complaint : Complaint) : Option Nat → String
  | some line => s!"line {line}: " ++ complaint.reason
  | none => complaint.reason

def Fault.atLine (line : Nat) : Fault → Fault
  | .malformed complaint _ => .malformed complaint (some line)
  | other => other

end PipelineLint.Document
