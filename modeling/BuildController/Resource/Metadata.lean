import BuildController.Json.Wire
import BuildController.Text.Blank

/-! Metadata that every resource carries, and the key under which a resource is stored. -/
namespace BuildController

def apiVersion : String := "kiln.dev/v1"

structure OwnerReference where
  apiVersion : String
  kind : String
  name : String
  uid : String
  controller : Option Bool
  deriving DecidableEq

instance : Wire OwnerReference :=
  Fields.wire
    (.cons (.required "apiVersion") <| .cons (.required "kind") <| .cons (.required "name") <|
      .cons (.withDefault "uid" "") <| .cons (.optional "controller") .nil)
    (fun r => (r.apiVersion, r.kind, r.name, r.uid, r.controller, ()))
    (fun (apiVersion, kind, name, uid, controller, ()) => { apiVersion, kind, name, uid, controller })

/-- Labels, annotations and selectors: texts under names. -/
abbrev Labels := OrderedMap String String

structure Metadata where
  name : String
  ns : Option String := none
  uid : String := ""
  generation : Option Int64 := none
  resourceVersion : Option String := none
  labels : Labels := .empty
  annotations : Labels := .empty
  ownerReferences : List OwnerReference := []
  deriving DecidableEq

instance : Wire Metadata :=
  Fields.wire
    (.cons (.required "name") <| .cons (.optional "namespace") <| .cons (.text "uid") <|
      .cons (.optional "generation") <| .cons (.optional "resourceVersion") <|
      .cons (.map "labels") <| .cons (.map "annotations") <| .cons (.list "ownerReferences") .nil)
    (fun m => (m.name, m.ns, m.uid, m.generation, m.resourceVersion, m.labels, m.annotations,
      m.ownerReferences, ()))
    (fun (name, ns, uid, generation, resourceVersion, labels, annotations, ownerReferences, ()) =>
      { name, ns, uid, generation, resourceVersion, labels, annotations, ownerReferences })

/-- The name of a stored resource within its namespace. -/
structure ObjectKey where
  ns : String
  name : String
  deriving DecidableEq, Repr

/-- Keys are ordered by namespace, and by name within one. -/
instance : LT ObjectKey := ⟨fun a b => a.ns < b.ns ∨ (a.ns = b.ns ∧ a.name < b.name)⟩

instance : DecidableLT ObjectKey := fun a b =>
  inferInstanceAs (Decidable (a.ns < b.ns ∨ (a.ns = b.ns ∧ a.name < b.name)))

instance : KeyOrder ObjectKey where
  irrefl a h := by
    rcases h with h | ⟨_, h⟩
    · exact String.lt_irrefl _ h
    · exact String.lt_irrefl _ h
  trans {a b c} h g := by
    rcases h with h | ⟨e, h⟩
    · rcases g with g | ⟨f, _⟩
      · exact .inl (String.lt_trans h g)
      · exact .inl (f ▸ h)
    · rcases g with g | ⟨f, g⟩
      · exact .inl (e ▸ g)
      · exact .inr ⟨e.trans f, String.lt_trans h g⟩
  connected {a b} h g := by
    obtain ⟨ns, name⟩ := a
    obtain ⟨ns', name'⟩ := b
    have same : ns = ns' :=
      KeyOrder.connected (fun l => h (.inl l)) (fun l => g (.inl l))
    subst same
    have same : name = name' :=
      KeyOrder.connected (fun l => h (.inr ⟨rfl, l⟩)) (fun l => g (.inr ⟨rfl, l⟩))
    rw [same]

namespace Metadata

def namespaceName (m : Metadata) : String := m.ns.getD ""

def key (m : Metadata) : ObjectKey := ⟨m.namespaceName, m.name⟩

/-- Is the annotation there, with the value `true` in any case of letters? -/
def annotationEnabled (m : Metadata) (name : String) : Bool :=
  match m.annotations.get? name with
  | some value => Text.equalsIgnoringCase value "true"
  | none => false

end Metadata

end BuildController
