import FormLogic.Value.Basic
/-!
# What the host provides

An expression belongs to a node of a form and reads data of the host: form data, components, attachments, the process
instance, permissions, settings, option lists and texts.  `Sources` is this access, question by question.  A host
answers what its forms use; a question it does not know has a neutral answer.  The answers are fixed, so an evaluation
sees the same data throughout.
-/
namespace FormLogic

inductive Node where
  | component (id : String)
  | page (id : String)
  | detached
  deriving DecidableEq

def Node.componentId? : Node → Option String
  | .component id => some id
  | _ => none

/-- **A component of the form**, with the path of the data it is bound to. -/
structure Component where
  id : String := ""
  binding : Option String := none
  hidden : Bool := false
  deriving DecidableEq

structure Attachment where
  id : String
  dataType : Option String := none
  filename : Option String := none
  deriving DecidableEq

structure ProcessInstance where
  instanceId : Option String := none
  appId : Option String := none
  ownerPartyId : Option String := none
  ownerPartyType : Option String := none
  ownerName : Option String := none
  currentTaskId : Option String := none
  deriving DecidableEq

/-- **A field of the instance by its key**: nothing for an unknown key, and nothing inside for a field that is not
set. -/
def ProcessInstance.field? (p : ProcessInstance) (key : String) : Option (Option String) :=
  if key = "instanceId" then some p.instanceId
  else if key = "appId" then some p.appId
  else if key = "instanceOwnerPartyId" then some p.ownerPartyId
  else if key = "instanceOwnerPartyType" then some p.ownerPartyType
  else if key = "instanceOwnerName" then some p.ownerName
  else if key = "currentTaskId" then some p.currentTaskId
  else none

structure Permissions where
  read : Bool := false
  write : Bool := false
  instantiate : Bool := false
  confirm : Bool := false
  sign : Bool := false
  reject : Bool := false
  complete : Bool := false
  deriving DecidableEq

/-- **Whether an action is allowed**; nothing for an unknown action. -/
def Permissions.allows? (p : Permissions) (action : String) : Option Bool :=
  if action = "read" then some p.read
  else if action = "write" then some p.write
  else if action = "instantiate" then some p.instantiate
  else if action = "confirm" then some p.confirm
  else if action = "sign" then some p.sign
  else if action = "reject" then some p.reject
  else if action = "complete" then some p.complete
  else none

structure Choice where
  value : Value
  label : String
  deriving DecidableEq

structure ChoiceList where
  choices : List Choice := []
  fetching : Bool := false
  deriving DecidableEq

structure Sources where
  formData : String → Option Value := fun _ => none
  attachments : String → List Attachment := fun _ => []
  processInstance : Option ProcessInstance := none
  permissions : Option Permissions := none
  setting : String → Option Value := fun _ => none
  choiceList : String → Option ChoiceList := fun _ => none
  text : String → Option String := fun _ => none
  formatNumber : Double → Option String := fun _ => none
  language : String := "nb"
  component : String → Node → Option Component := fun _ _ => none

def Sources.none : Sources := {}

/-- **What an operator may look at** besides its arguments. -/
structure Scope where
  sources : Sources
  node : Node
  positional : List Value

end FormLogic
