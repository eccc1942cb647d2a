import FormLogic.Proofs.Documents
import FormLogic.Wire.Data
/-!
# Host data read back

The data of a host is written with every member, in one form; it may be read from many forms, with members absent, null
or in any order.  Reading undoes writing (`HostData.ofValue?_toValue`), part by part: texts and flags first, then lists
and tables of what is read back, then the records made of them.  So what is read, written and read again stays the same.
Nodes and issues are read back as well.
-/
namespace FormLogic
namespace Wire

variable {α : Type} {read : Value → Option α} {write : α → Value}

theorem mapM_map_eq_some {β : Type} {f : α → β} {g : β → Option α} :
    ∀ {items : List α}, (∀ a ∈ items, g (f a) = some a) → (items.map f).mapM g = some items
  | [], _ => rfl
  | a :: rest, h => by
    have hrest : (rest.map f).mapM g = some rest := mapM_map_eq_some fun b hb => h b (List.mem_cons_of_mem a hb)
    rw [List.map_cons, List.mapM_cons, h a List.mem_cons_self, hrest]
    rfl

/-- **A list is read back** if its items are. -/
theorem list?_ofList {items : List α} (h : ∀ a ∈ items, read (write a) = some a) :
    list? read (ofList write items) = some items := mapM_map_eq_some h

/-- **A table is read back** if its values are. -/
theorem table?_ofTable (h : ∀ a, read (write a) = some a) (t : Table α) : table? read (ofTable write t) = some t := by
  have hentries : ((t.entries.map fun e => (e.1, write e.2)).mapM fun m => (read m.2).map fun a => (m.1, a))
      = some t.entries := by
    refine mapM_map_eq_some fun e _ => ?_
    rw [h, Option.map_some]
  simp only [table?, ofTable, Value.members?, Option.bind_eq_bind, Option.bind_some, hentries, Option.pure_def,
    Table.ofList_entries]

@[simp] theorem string?_string (s : String) : Value.string? (.string s) = some s := rfl

@[simp] theorem flag?_bool (b : Bool) : flag? (.bool b) = some b := rfl

theorem word?_ofNat {n : Nat} (h : n < Nat.pow 2 64) : word? (.ofNat n) = some n := by
  have hnonneg : 0 ≤ (n : Int) := Int.natCast_nonneg n
  have hlt : (n : Int) < (Nat.pow 2 64 : Nat) := Int.ofNat_lt.mpr h
  simp only [Value.ofNat, Value.ofInt, word?, hnonneg, hlt, and_self, if_true, Int.toNat_natCast]

/-- **A text that may be null is read back.** -/
@[simp] theorem nullable?_string (s : Option String) : nullable? Value.string? (orNull .string s) = some s :=
  nullable?_orNull string?_string (fun _ h => by cases h) s

end Wire

theorem Component.ofValue?_toValue (c : Component) : ofValue? c.toValue = some c := by
  obtain ⟨id, binding, hidden⟩ := c
  cases binding <;> rfl

theorem Attachment.ofValue?_toValue (a : Attachment) : ofValue? a.toValue = some a := by
  obtain ⟨id, dataType, filename⟩ := a
  cases dataType <;> cases filename <;> rfl

theorem ProcessInstance.ofValue?_toValue (p : ProcessInstance) : ofValue? p.toValue = some p := by
  simp only [ofValue?, toValue, Value.members?, Option.bind_eq_bind, Option.bind_some, Option.pure_def,
    Wire.optional, Wire.defaulted, findEntry_cons_self, findEntry_cons_of_ne, ne_eq, String.reduceEq,
    not_false_eq_true, Wire.nullable?_string]

theorem Permissions.ofValue?_toValue (p : Permissions) : ofValue? p.toValue = some p := rfl

theorem Choice.ofValue?_toValue (c : Choice) : ofValue? c.toValue = some c := rfl

theorem ChoiceList.ofValue?_toValue (l : ChoiceList) : ofValue? l.toValue = some l := by
  have hchoices : Wire.list? Choice.ofValue? (Wire.ofList Choice.toValue l.choices) = some l.choices :=
    Wire.list?_ofList fun c _ => c.ofValue?_toValue
  simp only [ofValue?, toValue, Value.members?, Option.bind_eq_bind, Option.bind_some, Option.pure_def,
    Wire.defaulted, findEntry_cons_self, findEntry_cons_of_ne, ne_eq, String.reduceEq, not_false_eq_true, hchoices,
    Wire.flag?_bool]

/-- **Host data is read back** from the document it is written as. -/
theorem HostData.ofValue?_toValue (d : HostData) : ofValue? d.toValue = some d := by
  have hformData : Wire.table? some (Wire.ofTable id d.formData) = some d.formData :=
    Wire.table?_ofTable (fun _ => rfl) d.formData
  have hcomponents : Wire.table? Component.ofValue? (Wire.ofTable Component.toValue d.components) = some d.components :=
    Wire.table?_ofTable Component.ofValue?_toValue d.components
  have hattachments : Wire.table? (Wire.list? Attachment.ofValue?)
      (Wire.ofTable (Wire.ofList Attachment.toValue) d.attachments) = some d.attachments :=
    Wire.table?_ofTable (fun _ => Wire.list?_ofList fun a _ => a.ofValue?_toValue) d.attachments
  have hinstance : Wire.nullable? ProcessInstance.ofValue? (Wire.orNull ProcessInstance.toValue d.processInstance)
      = some d.processInstance :=
    Wire.nullable?_orNull ProcessInstance.ofValue?_toValue (fun _ h => by cases h) d.processInstance
  have hpermissions : Wire.nullable? Permissions.ofValue? (Wire.orNull Permissions.toValue d.permissions)
      = some d.permissions :=
    Wire.nullable?_orNull Permissions.ofValue?_toValue (fun _ h => by cases h) d.permissions
  have hsettings : Wire.table? some (Wire.ofTable id d.settings) = some d.settings :=
    Wire.table?_ofTable (fun _ => rfl) d.settings
  have hchoiceLists : Wire.table? ChoiceList.ofValue? (Wire.ofTable ChoiceList.toValue d.choiceLists)
      = some d.choiceLists :=
    Wire.table?_ofTable ChoiceList.ofValue?_toValue d.choiceLists
  have htexts : Wire.table? Value.string? (Wire.ofTable .string d.texts) = some d.texts :=
    Wire.table?_ofTable Wire.string?_string d.texts
  simp only [ofValue?, toValue, Value.members?, Option.bind_eq_bind, Option.bind_some, Option.pure_def,
    Wire.optional, Wire.defaulted, findEntry_cons_self, findEntry_cons_of_ne, ne_eq, String.reduceEq,
    not_false_eq_true, hformData, hcomponents, hattachments, hinstance, hpermissions, hsettings, hchoiceLists, htexts,
    Wire.nullable?_string]

theorem Node.ofValue?_toValue (node : Node) : ofValue? node.toValue = some node := by
  cases node <;> rfl

/-- **An issue is read back**, where the steps of its path are 64-bit words. -/
theorem Issue.ofValue?_toValue {issue : Issue} (h : ∀ step ∈ issue.path, step < Nat.pow 2 64) :
    ofValue? issue.toValue = some issue := by
  have hpath : Wire.list? Wire.word? (Wire.ofList .ofNat issue.path) = some issue.path :=
    Wire.list?_ofList fun step hstep => Wire.word?_ofNat (h step hstep)
  simp only [ofValue?, toValue, Value.members?, Option.bind_eq_bind, Option.bind_some, Option.pure_def,
    Wire.required, Wire.optional, Wire.defaulted, findEntry_cons_self, findEntry_cons_of_ne, ne_eq, String.reduceEq,
    not_false_eq_true, Wire.string?_string, Wire.nullable?_string, hpath]

/-- **Documents of the host are read back.**  Data, nodes and issues are what they were before they were written, and
any document that reads as data may be replaced by what is written back from it: one that does not read stays unread. -/
theorem reread_documents :
    (∀ d : HostData, HostData.ofValue? d.toValue = some d) ∧
      (∀ node : Node, Node.ofValue? node.toValue = some node) ∧
      (∀ issue : Issue, (∀ step ∈ issue.path, step < Nat.pow 2 64) → Issue.ofValue? issue.toValue = some issue) ∧
      ∀ v, ((HostData.ofValue? v).bind fun d => HostData.ofValue? d.toValue) = HostData.ofValue? v := by
  refine ⟨HostData.ofValue?_toValue, Node.ofValue?_toValue, fun _ => Issue.ofValue?_toValue, fun v => ?_⟩
  cases HostData.ofValue? v with
  | none => rfl
  | some d => exact d.ofValue?_toValue

/-- An issue of the innermost call of three, which names no operator. -/
theorem reread_documents_issue :
    let issue := Issue.depth 1 [2, 1]
    (∀ step ∈ issue.path, step < Nat.pow 2 64) ∧ Issue.ofValue? issue.toValue = some issue := by
  intro issue
  have hsteps : ∀ step ∈ issue.path, step < Nat.pow 2 64 := by decide
  obtain ⟨-, -, hissue, -⟩ := reread_documents
  exact ⟨hsteps, hissue issue hsteps⟩

end FormLogic
