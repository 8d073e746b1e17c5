import MooWorld.Assoc
import MooWorld.Fault
import MooWorld.Flag
/-!
# The object store

Records by object number. An object has a number, flags, an ordered list of parents and the properties it
defines itself. A property keeps the spelling of its name from the first time it was defined on the object.
A record is always replaced as a whole, so one that was read earlier stays as it was.

The flags of an object decide what may be done on its behalf. Wizards may do anything; a task may be
controlled by its owner and by wizards.
-/
namespace MooWorld

/-! ## Errors -/

/-- Why a question to the store failed (`WorldStateError`). -/
inductive StoreError where
  | objectNotFound (o : Obj)
  | permissionDenied
  | propertyNotFound (o : Obj) (name : String)

namespace StoreError

/-- The text of the error. -/
def message : StoreError → String
  | .objectNotFound o => "Object not found: " ++ o.text
  | .permissionDenied => "Object permission denied"
  | .propertyNotFound o name => "Property not found: " ++ o.text ++ "." ++ name

/-- The error a task sees. -/
def fault : StoreError → Fault
  | e@(.objectNotFound _) => ErrorCode.invalidIndirection.withMessage e.message
  | .permissionDenied => ErrorCode.permissionDenied.fault
  | e@(.propertyNotFound _ _) => ErrorCode.propertyNotFound.withMessage e.message

end StoreError

/-! ## Permissions -/

/-- Whether a request to control something is granted (`authorize`). -/
def authorize (isOwner isWizard : Bool) : Bool := isOwner || isWizard

/-- Someone, with the flags they act under (`Perms`). -/
structure Permission where
  who : Obj
  flags : FlagSet ObjectFlag

namespace Permission

/-- Whether they act as a wizard. -/
def isWizard (p : Permission) : Bool := p.flags.has .wizard

/-- Refuses everyone but wizards (`check_wizard`). -/
def checkWizard (p : Permission) : Except StoreError Unit :=
  if p.isWizard then .ok () else .error .permissionDenied

/-- Whether they may control a task of this owner. -/
def controls (p : Permission) (owner : Obj) : Bool := authorize (p.who == owner) p.isWizard

/-- Refuses everyone who may not control a task of this owner (`check_task_control`). -/
def checkTaskControl (p : Permission) (owner : Obj) : Except StoreError Unit :=
  if p.controls owner then .ok () else .error .permissionDenied

end Permission

/-! ## Objects -/

/-- A property as defined on one object (`PropertyRecord`). -/
structure Property where
  value : Value
  owner : Obj
  flags : FlagSet PropertyFlag

/-- An object as the store holds it (`ObjectRecord`). -/
structure Record where
  id : Obj
  flags : FlagSet ObjectFlag := .empty
  parents : List Obj := []
  properties : List (Symbol × Property) := []

namespace Record

/-- The property of this name that the object defines itself (`local_property`). -/
def property? (r : Record) (name : Symbol) : Option Property :=
  Assoc.get? Symbol.cmp name r.properties

/-- Defines or redefines a property (`with_property`). -/
def withProperty (r : Record) (name : Symbol) (p : Property) : Record :=
  { r with properties := Assoc.update Symbol.cmp name p r.properties }

end Record

/-! ## The store -/

/-- All objects, in order of their numbers (`ObjectStore`). -/
structure Store where
  records : List (Obj × Record) := []

namespace Store

/-- The record of an object. -/
def get? (s : Store) (o : Obj) : Option Record := Assoc.get? Obj.cmp o s.records

/-- Adds a record, in place of one with the same number. -/
def insert (s : Store) (r : Record) : Store := ⟨Assoc.insert Obj.cmp r.id r s.records⟩

/-- Drops the record of an object. -/
def erase (s : Store) (o : Obj) : Store := ⟨Assoc.erase Obj.cmp o s.records⟩

/-- How many objects there are. -/
def size (s : Store) : Nat := s.records.length

/-- Whether the object exists. -/
def valid (s : Store) (o : Obj) : Bool := (s.get? o).isSome

/-- The flags of an object (`flags_of`). -/
def flagsOf (s : Store) (o : Obj) : Except StoreError (FlagSet ObjectFlag) :=
  match s.get? o with
  | some r => .ok r.flags
  | none => .error (.objectNotFound o)

/-- Changes the record of an object that exists. -/
def modify (s : Store) (o : Obj) (f : Record → Record) : Except StoreError Store :=
  match s.get? o with
  | some r => .ok ⟨Assoc.insert Obj.cmp o (f r) s.records⟩
  | none => .error (.objectNotFound o)

/-- Defines or redefines a property on an object (`update_property`). -/
def updateProperty (s : Store) (o : Obj) (name : Symbol) (p : Property) : Except StoreError Store :=
  s.modify o (·.withProperty name p)

/-- Gives an object other parents (`set_parents`). -/
def setParents (s : Store) (o : Obj) (parents : List Obj) : Except StoreError Store :=
  s.modify o ({ · with parents := parents })

/-- A store with the given records, later ones in place of earlier ones. -/
def ofList (records : List Record) : Store := records.foldl insert {}

end Store

end MooWorld
