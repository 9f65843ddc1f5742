import TableDraft.Fault

namespace TableDraft

/-- A trigger for each row. Its body is what stands between the outer `BEGIN` and `END`. -/
structure Trigger where
  name : String
  timing : String
  event : String
  body : String
  deriving DecidableEq

namespace Trigger

def checkFields (fields : Fields) : Checked Trigger :=
  Trigger.mk
    <$> fields.required "name" checkText
    <*> fields.required "timing" checkText
    <*> fields.required "event" checkText
    <*> fields.orElse "body" "" checkText

def check : Value → Checked Trigger :=
  checkObject checkFields

def fields (t : Trigger) : Fields :=
  [("name", .text t.name), ("timing", .text t.timing), ("event", .text t.event),
    ("body", .text t.body)]

end Trigger

end TableDraft
