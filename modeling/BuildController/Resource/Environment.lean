import BuildController.Json.Wire

/-! Environment variables of the steps of a build. -/
namespace BuildController

structure FieldSelector where
  fieldPath : String
  deriving DecidableEq

instance : Wire FieldSelector :=
  Fields.wire (.cons (.required "fieldPath") .nil)
    (fun s => (s.fieldPath, ())) (fun (fieldPath, ()) => { fieldPath })

structure KeySelector where
  name : String
  key : String
  deriving DecidableEq

instance : Wire KeySelector :=
  Fields.wire (.cons (.required "name") <| .cons (.required "key") .nil)
    (fun s => (s.name, s.key, ())) (fun (name, key, ()) => { name, key })

/-- Where the value of a variable comes from if it is not given. -/
structure EnvVarSource where
  fieldRef : Option FieldSelector
  secretKeyRef : Option KeySelector
  configMapKeyRef : Option KeySelector
  deriving DecidableEq

instance : Wire EnvVarSource :=
  Fields.wire
    (.cons (.optional "fieldRef") <| .cons (.optional "secretKeyRef") <|
      .cons (.optional "configMapKeyRef") .nil)
    (fun s => (s.fieldRef, s.secretKeyRef, s.configMapKeyRef, ()))
    (fun (fieldRef, secretKeyRef, configMapKeyRef, ()) =>
      { fieldRef, secretKeyRef, configMapKeyRef })

structure EnvVar where
  name : String
  value : Option String := none
  valueFrom : Option EnvVarSource := none
  deriving DecidableEq

instance : Wire EnvVar :=
  Fields.wire
    (.cons (.required "name") <| .cons (.optional "value") <| .cons (.optional "valueFrom") .nil)
    (fun v => (v.name, v.value, v.valueFrom, ()))
    (fun (name, value, valueFrom, ()) => { name, value, valueFrom })

def EnvVar.hasValue (v : EnvVar) : Bool := v.value.getD "" ≠ ""

end BuildController
