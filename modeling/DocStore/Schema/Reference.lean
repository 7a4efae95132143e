import DocStore.Schema.Resource
import DocStore.Schema.Metaschema.Release

/-!
# References between schemas

A reference is an address, seen from the schema it stands in, and a fragment.  The
address names a schema: the one that is validated with, one inside of it that has an
address of its own, or a schema of schemas.  The fragment is empty, the name of an
anchor, or a pointer that walks from the schema to one of its parts.
-/

namespace DocStore

/-! ## The schemas of schemas

References may lead to the schemas of schemas of all drafts.
-/

/-- The schemas of schemas of a draft. -/
def Draft.metaschemas : Draft → List Value
  | three => [Metaschema.draft3]
  | four => [Metaschema.draft4]
  | six => [Metaschema.draft6]
  | seven => [Metaschema.draft7]
  | of2019 => Metaschema.Release2019.all
  | of2020 => Metaschema.Release2020.all

/-- The address that a schema of schemas gives itself. -/
def Metaschema.address (draft : Draft) (contents : Value) : String :=
  match contents with
  | .object members =>
      match Members.getD members draft.addressKeyword with
      | .text address => Address.withoutTrailingSigns address
      | _ => ""
  | _ => ""

/-- All schemas of schemas by their addresses. -/
def metaschemas : List (String × SchemaResource) :=
  Draft.all.flatMap fun draft =>
    draft.metaschemas.map fun contents =>
      (Metaschema.address draft contents, { draft, contents })

/-- The anchors in the schemas of schemas: one for each schema of the last draft. -/
def metaschemaAnchors : List (String × SchemaResource.Anchor) :=
  (metaschemas.filter fun entry => entry.2.draft = .of2020).map fun entry =>
    (entry.1, { name := .text "meta", resource := entry.2, isDynamic := true })

/-! ## Registries -/

/-- The schemas that references can lead to.  Schemas inside of others are taken in when
they are asked for: `pending` are the addresses whose schemas were not searched yet. -/
structure SchemaRegistry where
  resources : List (String × SchemaResource)
  anchors : List (String × SchemaResource.Anchor) := []
  pending : List String

namespace SchemaRegistry

def ofRoot (address : String) (resource : SchemaResource) : SchemaRegistry :=
  { resources := [(address, resource)], pending := [address] }

/-- The schema at an address; the schemas of schemas are always there. -/
def resource? (registry : SchemaRegistry) (address : String) : Option SchemaResource :=
  (registry.resources ++ metaschemas).lookup address

def anchor? (registry : SchemaRegistry) (address name : String) :
    Option SchemaResource.Anchor :=
  ((registry.anchors ++ metaschemaAnchors).find? fun anchor =>
    anchor.1 == address && anchor.2.name == .text name).map Prod.snd

/-- Takes the schemas of a stack into a registry, the top one first, and those inside of
them on top of it. -/
def gather : Nat → SchemaRegistry → List (String × SchemaResource) →
    Except Fault SchemaRegistry
  | 0, registry, _ => .ok registry
  | _, registry, [] => .ok registry
  | fuel + 1, registry, (address, resource) :: stack => do
      let (address, resources) ←
        match ← resource.address? with
        | some own => do
            let address ← Address.join address own
            pure (address, (address, resource) :: registry.resources)
        | none => pure (address, registry.resources)
      let anchors ← resource.anchors
      let parts ← resource.parts
      gather fuel
        { registry with
          resources, anchors := anchors.reverse.map (address, ·) ++ registry.anchors }
        (parts.reverse.map (address, ·) ++ stack)

/-- Searches all schemas that were not searched yet. -/
def complete (registry : SchemaRegistry) : Except Fault SchemaRegistry :=
  let found := registry.pending.filterMap fun address =>
    (registry.resource? address).map (address, ·)
  let size := found.foldr (fun entry size => entry.2.contents.nodeCount + size) 0
  gather (size + 1) { registry with pending := [] } found

/-- Takes in one more schema, which is searched when its parts are asked for. -/
def add (registry : SchemaRegistry) (address : String) (resource : SchemaResource) :
    SchemaRegistry :=
  { registry with
    resources := (address, resource) :: registry.resources
    pending := address :: registry.pending }

/-- Finds the schema at an address, which may hold the schema itself. -/
def find (registry : SchemaRegistry) (address : String) :
    Except Fault (SchemaRegistry × SchemaResource) :=
  match registry.resource? address with
  | some resource => .ok (registry, resource)
  | none => do
      let completed ← registry.complete
      match completed.resource? address with
      | some resource => pure (completed, resource)
      | none =>
          match SchemaResource.embedded? address with
          | some resource => pure (completed.add address resource, resource)
          | none => throw .missingResource

/-- Finds an anchor of the schema at an address, which may stand under the address that
the schema gives itself.  There is none if the schema has no anchor of that name. -/
def findAnchor? (registry : SchemaRegistry) (address name : String) :
    Except Fault (Option (SchemaRegistry × SchemaResource.Anchor)) :=
  match registry.anchor? address name with
  | some anchor => .ok (some (registry, anchor))
  | none => do
      let completed ← registry.complete
      match completed.anchor? address name with
      | some anchor => pure (some (completed, anchor))
      | none =>
          match registry.resource? address with
          | none => throw .unknownResource
          | some resource => do
              let own ← resource.address?
              match own.bind fun own => completed.anchor? own name with
              | some anchor => pure (some (completed, anchor))
              | none => if name.contains '/' then throw .malformedAnchor else pure none

end SchemaRegistry

/-- From where references are seen: the address of the schema they stand in, the schemas
they can lead to, and the addresses that were left by references, the last one first. -/
structure Viewpoint where
  address : String
  registry : SchemaRegistry
  left : List String := []

namespace Viewpoint

def ofRoot (resource : SchemaResource) : Except Fault Viewpoint := do
  let own ← resource.address?
  let address := own.getD ""
  pure { address, registry := SchemaRegistry.ofRoot address resource }

/-- Enters a schema inside of the one at hand, which may have an address of its own. -/
def enter (viewpoint : Viewpoint) (resource : SchemaResource) : Except Fault Viewpoint := do
  match ← resource.address? with
  | some own => do
      let address ← Address.join viewpoint.address own
      pure { viewpoint with address }
  | none => pure viewpoint

def goTo (viewpoint : Viewpoint) (address : String) (registry : SchemaRegistry) : Viewpoint :=
  let left :=
    if !viewpoint.address.isEmpty
        && (viewpoint.left.isEmpty || address != viewpoint.address) then
      viewpoint.address :: viewpoint.left
    else viewpoint.left
  { address, registry, left }

/-! ## Pointers -/

/-- Puts a character in the place of every tilde with a mark behind it. -/
def replaceTildes (mark replacement : Char) : List Char → List Char
  | [] => []
  | '~' :: next :: rest =>
      if next = mark then replacement :: replaceTildes mark replacement rest
      else '~' :: replaceTildes mark replacement (next :: rest)
  | character :: rest => character :: replaceTildes mark replacement rest

/-- A segment of a pointer without its tilde escapes. -/
def unescapeTildes (segment : String) : String :=
  String.ofList (replaceTildes '0' '~' (replaceTildes '1' '/' segment.toList))

/-- The element at a position; negative positions count from the end. -/
def elementAt {α : Type} (items : List α) (position : Int) : Except Fault α :=
  let fromStart := if position < 0 then position + items.length else position
  match if fromStart < 0 then none else items[fromStart.toNat]? with
  | some item => .ok item
  | none => .error .missingPlace

/-- One step of a pointer: the key or position that a segment stands for, and the value
there. -/
def stepInto (contents : Value) (segment : String) : Except Fault (Key × Value) := do
  let position : Except Fault Int := (readInteger? segment).elim (.error .malformedValue) .ok
  match contents with
  | .object members => do
      let key := unescapeTildes segment
      match Members.get? key members with
      | some value => pure (.text key, value)
      | none => throw .missingPlace
  | .text content => do
      let position ← position
      let character ← elementAt content.toList position
      pure (.int position, .text (String.singleton character))
  | contents =>
      match contents.sequence? with
      | some items => do
          let position ← position
          let item ← elementAt items position
          pure (.int position, item)
      | none => throw .unsuitableKind

/-- Follows the segments of a pointer.  `walked` are the keys since the last schema on
the way, which is where the viewpoint may change. -/
def follow (draft : Draft) (viewpoint : Viewpoint) (contents : Value) (walked : List Key) :
    List String → Except Fault (Value × Viewpoint)
  | [] => .ok (contents, viewpoint)
  | segment :: segments => do
      let (key, next) ← stepInto contents segment
      let walked := walked ++ [key]
      if SchemaResource.leadsToSchema draft next walked then
        let resource : SchemaResource := { draft, contents := next }
        match ← resource.address? with
        | some _ => do
            let entered ← viewpoint.enter resource
            follow draft entered next [] segments
        | none => follow draft viewpoint next walked segments
      else follow draft viewpoint next walked segments

def pointerSegments (pointer : List Char) : List String :=
  (cutAt '/' (Address.decodeEscapes pointer)).map String.ofList

/-! ## Look-up -/

/-- The last of the addresses left that has a dynamic anchor of a name overrides the
anchor. -/
def overriding (registry : SchemaRegistry) (name : String) :
    SchemaResource → List String → Except Fault SchemaResource
  | resource, [] => .ok resource
  | resource, address :: addresses => do
      match ← registry.findAnchor? address name with
      | some (_, anchor) =>
          overriding registry name (if anchor.isDynamic then anchor.resource else resource)
            addresses
      | none => overriding registry name resource addresses

def atAnchor (viewpoint : Viewpoint) (address name : String) (registry : SchemaRegistry) :
    Except Fault (Value × Viewpoint) := do
  match ← registry.findAnchor? address name with
  | none => throw .missingAnchor
  | some (registry, anchor) =>
      let viewpoint := viewpoint.goTo address registry
      if anchor.isDynamic then
        let resource ← overriding viewpoint.registry name anchor.resource viewpoint.left
        let entered ← viewpoint.enter resource
        pure (resource.contents, entered)
      else pure (anchor.resource.contents, viewpoint)

/-- The schema that a reference means, and the viewpoint there. -/
def lookUp (viewpoint : Viewpoint) (reference : String) :
    Except Fault (Value × Viewpoint) := do
  let (address, fragment) ←
    match reference.toList with
    | '#' :: fragment => pure (viewpoint.address, String.ofList fragment)
    | _ => do
        let joined ← Address.join viewpoint.address reference
        Address.cutFragment joined
  let (registry, resource) ← viewpoint.registry.find address
  match fragment.toList with
  | [] => pure (resource.contents, viewpoint.goTo address registry)
  | '/' :: pointer =>
      follow resource.draft (viewpoint.goTo address registry) resource.contents []
        (pointerSegments pointer)
  | _ => viewpoint.atAnchor address fragment registry

/-- Whether a schema may be overridden by the schemas that refer to it recursively. -/
def isRecursiveAnchor : Value → Bool
  | .object members => (Members.getD members "$recursiveAnchor").isTruthy
  | _ => false

/-- The outermost schema, along the addresses left, up to which all schemas may be
overridden. -/
def outermost (viewpoint : Viewpoint) (found : Value × Viewpoint) :
    List String → Except Fault (Value × Viewpoint)
  | [] => .ok found
  | address :: addresses => do
      let next ← viewpoint.lookUp address
      if isRecursiveAnchor next.1 then outermost viewpoint next addresses else pure found

def lookUpRecursively (viewpoint : Viewpoint) : Except Fault (Value × Viewpoint) := do
  let found ← viewpoint.lookUp "#"
  if isRecursiveAnchor found.1 then outermost viewpoint found viewpoint.left
  else pure found

end Viewpoint

end DocStore
