import FormLogic.Host.Sources
import FormLogic.Value.Lookup
/-!
# Host data in tables

`HostData` is a host whose answers all stand in tables, as test fixtures and the command line give them;
`HostData.sources` is the access to it.
-/
namespace FormLogic

structure HostData where
  formData : Table Value := .empty
  components : Table Component := .empty
  attachments : Table (List Attachment) := .empty
  processInstance : Option ProcessInstance := none
  permissions : Option Permissions := none
  settings : Table Value := .empty
  choiceLists : Table ChoiceList := .empty
  texts : Table String := .empty
  language : Option String := none

namespace HostData

/-- **The data with one more component**, visible, in place of one with the same id. -/
def withComponent (d : HostData) (id : String) (binding : Option String) : HostData :=
  { d with components := d.components.insert id ⟨id, binding, false⟩ }

/-- **The answers from the tables.**  A component goes by the id it is stored under. -/
def sources (d : HostData) : Sources where
  formData := DataPath.find? d.formData.entries
  attachments id := (d.attachments.get? id).getD []
  processInstance := d.processInstance
  permissions := d.permissions
  setting := d.settings.get?
  choiceList := d.choiceLists.get?
  text := d.texts.get?
  language := d.language.getD "nb"
  component id _ := (d.components.get? id).map fun c => { c with id := id }

end HostData
end FormLogic
