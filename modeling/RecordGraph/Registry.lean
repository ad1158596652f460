import RecordGraph.Object
import RecordGraph.Ordered

/-!
# Registered record types

An edge names its ends by a type name and a number.  The registry says of a type name whether its
records may be ends of edges and whether they are scoping objects.  An end of an edge is reached
through an accessor, `Type_source` or `Type_destination`, and the registry finds the type that
owns an accessor.
-/

namespace RecordGraph

inductive EdgeEnd where
  | source
  | destination
deriving DecidableEq, Repr

def EdgeEnd.label : EdgeEnd → String
  | .source => "source"
  | .destination => "destination"

/-- The accessor of a type at one end of an edge, such as `Control_source`. -/
def accessorName (type : String) (edgeEnd : EdgeEnd) : String :=
  type ++ "_" ++ edgeEnd.label

structure NodeType where
  name : String
  relatable : Bool
  scoping : Bool
deriving DecidableEq, Repr, Inhabited

namespace NodeType

def relatableType (name : String) : NodeType := ⟨name, true, false⟩

/-- A scoping type; its records may be ends of edges. -/
def scopingType (name : String) : NodeType := ⟨name, true, true⟩

/-- A type whose records are never ends of edges. -/
def plainType (name : String) : NodeType := ⟨name, false, false⟩

def before (left right : NodeType) : Bool := decide (left.name < right.name)

/-- The accessors that a type contributes; a type that is not relatable has none. -/
def accessors (nodeType : NodeType) : List String :=
  if nodeType.relatable then
    [accessorName nodeType.name .source, accessorName nodeType.name .destination]
  else []

end NodeType

/-- The registered types in the order of their names, and the type name behind each accessor. -/
structure TypeRegistry where
  types : List NodeType := []
  owners : List (String × String) := []
deriving DecidableEq, Repr, Inhabited

/-- Type names that extend the built-in registry, by kind. -/
structure RegistryExtension where
  scoping : List String := []
  relatable : List String := []
  nonRelatable : List String := []
deriving DecidableEq, Repr, Inhabited

namespace TypeRegistry

def empty : TypeRegistry := {}

def get? (registry : TypeRegistry) (name : String) : Option NodeType :=
  registry.types.find? (fun nodeType => nodeType.name == name)

/-- Add a type, or replace the one of its name.  The accessors of a replaced type go with it. -/
def register (registry : TypeRegistry) (nodeType : NodeType) : TypeRegistry :=
  let stale := ((registry.get? nodeType.name).map NodeType.accessors).getD []
  let fresh := nodeType.accessors
  let kept := registry.owners.filter
    (fun owner => !stale.contains owner.1 && !fresh.contains owner.1)
  { types := Ordered.replace NodeType.before nodeType registry.types
    owners := fresh.map (fun accessor => (accessor, nodeType.name)) ++ kept }

def registerAll (registry : TypeRegistry) (kind : String → NodeType) (names : List String) :
    TypeRegistry :=
  names.foldl (fun registry name => registry.register (kind name)) registry

def isRelatable (registry : TypeRegistry) (name : String) : Bool :=
  match registry.get? name with
  | some nodeType => nodeType.relatable
  | none => false

/-- The type that owns an accessor. -/
def resolve? (registry : TypeRegistry) (accessor : String) : Option NodeType :=
  match registry.owners.lookup accessor with
  | some name => registry.get? name
  | none => none

/-- The names of the scoping types, in order. -/
def scopingNames (registry : TypeRegistry) : List String :=
  (registry.types.filter NodeType.scoping).map NodeType.name

def builtinScoping : List String :=
  ["AccessGroup", "AccountBalance", "DataAsset", "Facility", "KeyReport", "Market", "Metric",
    "OrgGroup", "Process", "Product", "ProductGroup", "Project", "System",
    "TechnologyEnvironment", "Vendor"]

def builtinRelatable : List String :=
  ["Assessment", "Audit", "Contract", "Control", "Document", "Issue", "Objective", "Person",
    "Policy", "Program", "Regulation", "Requirement", "Risk", "Standard", "Threat", snapshotType]

def builtinNonRelatable : List String := ["Automapping", "ImportExport"]

def builtin : TypeRegistry :=
  ((empty.registerAll NodeType.scopingType builtinScoping).registerAll
    NodeType.relatableType builtinRelatable).registerAll NodeType.plainType builtinNonRelatable

/-- The built-in registry with configured types on top: relatable types first, then scoping, then
non-relatable ones, so that the last list with a name decides its kind. -/
def ofExtension (extension : RegistryExtension) : TypeRegistry :=
  ((builtin.registerAll NodeType.relatableType extension.relatable).registerAll
    NodeType.scopingType extension.scoping).registerAll NodeType.plainType extension.nonRelatable

end TypeRegistry

end RecordGraph
