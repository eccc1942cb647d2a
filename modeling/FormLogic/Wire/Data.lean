import FormLogic.Host.Data
import FormLogic.Wire.Field
/-!
# Host data as documents

The data of a host as one object of tables.  What is absent is empty or not set; only an attachment's id and both parts
of a choice must be there.  The members are written in the order of their keys, all of them.
-/
namespace FormLogic

namespace Component

def ofValue? (v : Value) : Option Component := do
  let members ← v.members?
  return { id := ← Wire.defaulted Value.string? "" members "id"
           binding := ← Wire.optional Value.string? members "binding"
           hidden := ← Wire.defaulted Wire.flag? false members "hidden" }

def toValue (c : Component) : Value :=
  .object [("binding", Wire.orNull .string c.binding), ("hidden", .bool c.hidden), ("id", .string c.id)]

end Component

namespace Attachment

def ofValue? (v : Value) : Option Attachment := do
  let members ← v.members?
  return { id := ← Wire.required Value.string? members "id"
           dataType := ← Wire.optional Value.string? members "dataType"
           filename := ← Wire.optional Value.string? members "filename" }

def toValue (a : Attachment) : Value :=
  .object [
    ("dataType", Wire.orNull .string a.dataType),
    ("filename", Wire.orNull .string a.filename),
    ("id", .string a.id)]

end Attachment

namespace ProcessInstance

def ofValue? (v : Value) : Option ProcessInstance := do
  let members ← v.members?
  return { instanceId := ← Wire.optional Value.string? members "instanceId"
           appId := ← Wire.optional Value.string? members "appId"
           ownerPartyId := ← Wire.optional Value.string? members "instanceOwnerPartyId"
           ownerPartyType := ← Wire.optional Value.string? members "instanceOwnerPartyType"
           ownerName := ← Wire.optional Value.string? members "instanceOwnerName"
           currentTaskId := ← Wire.optional Value.string? members "currentTaskId" }

def toValue (p : ProcessInstance) : Value :=
  .object [
    ("appId", Wire.orNull .string p.appId),
    ("currentTaskId", Wire.orNull .string p.currentTaskId),
    ("instanceId", Wire.orNull .string p.instanceId),
    ("instanceOwnerName", Wire.orNull .string p.ownerName),
    ("instanceOwnerPartyId", Wire.orNull .string p.ownerPartyId),
    ("instanceOwnerPartyType", Wire.orNull .string p.ownerPartyType)]

end ProcessInstance

namespace Permissions

def ofValue? (v : Value) : Option Permissions := do
  let members ← v.members?
  return { read := ← Wire.defaulted Wire.flag? false members "read"
           write := ← Wire.defaulted Wire.flag? false members "write"
           instantiate := ← Wire.defaulted Wire.flag? false members "instantiate"
           confirm := ← Wire.defaulted Wire.flag? false members "confirm"
           sign := ← Wire.defaulted Wire.flag? false members "sign"
           reject := ← Wire.defaulted Wire.flag? false members "reject"
           complete := ← Wire.defaulted Wire.flag? false members "complete" }

def toValue (p : Permissions) : Value :=
  .object [
    ("complete", .bool p.complete),
    ("confirm", .bool p.confirm),
    ("instantiate", .bool p.instantiate),
    ("read", .bool p.read),
    ("reject", .bool p.reject),
    ("sign", .bool p.sign),
    ("write", .bool p.write)]

end Permissions

namespace Choice

/-- Reads a choice.  Its value may be any value, null too. -/
def ofValue? (v : Value) : Option Choice := do
  let members ← v.members?
  return { value := ← Wire.required some members "value"
           label := ← Wire.required Value.string? members "label" }

def toValue (c : Choice) : Value := .object [("label", .string c.label), ("value", c.value)]

end Choice

namespace ChoiceList

def ofValue? (v : Value) : Option ChoiceList := do
  let members ← v.members?
  return { choices := ← Wire.defaulted (Wire.list? Choice.ofValue?) [] members "options"
           fetching := ← Wire.defaulted Wire.flag? false members "isFetching" }

def toValue (l : ChoiceList) : Value :=
  .object [("isFetching", .bool l.fetching), ("options", Wire.ofList Choice.toValue l.choices)]

end ChoiceList

namespace HostData

def ofValue? (v : Value) : Option HostData := do
  let members ← v.members?
  return { formData := ← Wire.defaulted (Wire.table? some) .empty members "formData"
           components := ← Wire.defaulted (Wire.table? Component.ofValue?) .empty members "components"
           attachments := ← Wire.defaulted (Wire.table? (Wire.list? Attachment.ofValue?)) .empty members "attachments"
           processInstance := ← Wire.optional ProcessInstance.ofValue? members "instance"
           permissions := ← Wire.optional Permissions.ofValue? members "auth"
           settings := ← Wire.defaulted (Wire.table? some) .empty members "settings"
           choiceLists := ← Wire.defaulted (Wire.table? ChoiceList.ofValue?) .empty members "options"
           texts := ← Wire.defaulted (Wire.table? Value.string?) .empty members "texts"
           language := ← Wire.optional Value.string? members "language" }

def toValue (d : HostData) : Value :=
  .object [
    ("attachments", Wire.ofTable (Wire.ofList Attachment.toValue) d.attachments),
    ("auth", Wire.orNull Permissions.toValue d.permissions),
    ("components", Wire.ofTable Component.toValue d.components),
    ("formData", Wire.ofTable id d.formData),
    ("instance", Wire.orNull ProcessInstance.toValue d.processInstance),
    ("language", Wire.orNull .string d.language),
    ("options", Wire.ofTable ChoiceList.toValue d.choiceLists),
    ("settings", Wire.ofTable id d.settings),
    ("texts", Wire.ofTable .string d.texts)]

end HostData
end FormLogic
