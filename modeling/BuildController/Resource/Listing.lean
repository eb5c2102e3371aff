import BuildController.Json.Tree
import BuildController.Json.Wire

/-! Lists in messages: the list of resources that a control plane answers with, and the result
entries that a step leaves behind as the text of a JSON array. -/
namespace BuildController

structure ObjectList (α : Type) where
  items : List α

instance [Wire α] : Wire (ObjectList α) :=
  Fields.wire (.cons (.withDefault "items" []) .nil) (fun l => (l.items, ()))
    (fun (items, ()) => { items })

/-- A result of a step: a value under a key. -/
structure ResultEntry where
  key : String
  value : String
  deriving DecidableEq

instance : Wire ResultEntry :=
  Fields.wire (.cons (.required "key") <| .cons (.required "value") .nil)
    (fun e => (e.key, e.value, ())) (fun (key, value, ()) => { key, value })

def Wire.ofText? (α : Type) [Wire α] (text : String) : Option α :=
  (Json.parse? text).bind Wire.decode

/-- Reads the message that a step left behind. -/
def ResultEntry.ofMessage? (message : String) : Option (List ResultEntry) :=
  Wire.ofText? (List ResultEntry) message

end BuildController
